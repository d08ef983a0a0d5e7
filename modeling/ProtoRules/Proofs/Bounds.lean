import ProtoRules.Check.Bounds
import ProtoRules.Proofs.Exclusions

/-!
Bounds and the names that declare them. What is accepted of a constant, of bounds and of membership
sets depends on the names that are set and on the two ends of the range, and on nothing else.
-/

namespace ProtoRules

variable {α β ε : Type}

namespace Exclusions

instance (t : Exclusions) (a b : String) : Decidable (t.Allows a b) :=
  decidable_of_iff (a ≠ b ∧ t.excludes a b = false)
    ⟨fun allowed => ⟨allowed.1, allowed.2⟩, fun allowed => ⟨allowed.ne, allowed.excludes_eq⟩⟩

instance (t : Exclusions) (names : List String) : Decidable (t.Admits names) :=
  inferInstanceAs (Decidable (names.Pairwise t.Allows))

end Exclusions

namespace Bounds

def rule? (b : Bounds α) : String → Option α
  | "const" => b.const
  | "lt" => b.lt
  | "lte" => b.lte
  | "gt" => b.gt
  | "gte" => b.gte
  | _ => none

theorem mem_declared_iff {b : Bounds α} {name : String} :
    name ∈ b.declared ↔ (b.rule? name).isSome = true := by
  have listed : name ∈ b.declared ↔ name = "const" ∧ b.const.isSome ∨ name = "lt" ∧ b.lt.isSome ∨
      name = "lte" ∧ b.lte.isSome ∨ name = "gt" ∧ b.gt.isSome ∨ name = "gte" ∧ b.gte.isSome := by
    simp only [declared, List.mem_append, mem_named, or_assoc]
  rw [listed]
  unfold rule?
  split
  case h_1 => simp
  case h_2 => simp
  case h_3 => simp
  case h_4 => simp
  case h_5 => simp
  case h_6 const lt lte gt gte =>
    simp [eq_false const, eq_false lt, eq_false lte, eq_false gt, eq_false gte]

theorem declared_nodup (b : Bounds α) : b.declared.Nodup := by
  simp only [declared, named]
  cases b.const.isSome <;> cases b.lt.isSome <;> cases b.lte.isSome <;> cases b.gt.isSome <;>
    cases b.gte.isSome <;> decide

private theorem merge_rule? (a b : Bounds α) (name : String) :
    (a.merge b).rule? name = (a.rule? name <|> b.rule? name) := by
  unfold rule?
  split <;> rfl

def mergeAll (bs : List (Bounds α)) : Bounds α :=
  bs.foldl merge {}

/-- Of several alternatives that set a rule the first one counts. -/
theorem mergeAll_rule? (bs : List (Bounds α)) (name : String) :
    (mergeAll bs).rule? name = bs.findSome? (·.rule? name) := by
  have fold : ∀ (bs : List (Bounds α)) (a : Bounds α),
      (bs.foldl merge a).rule? name = (a.rule? name <|> bs.findSome? (·.rule? name)) := by
    intro bs
    induction bs with
    | nil => simp
    | cons b bs ih =>
        intro a
        rw [List.foldl_cons, ih, merge_rule?, List.findSome?_cons]
        cases a.rule? name <;> cases b.rule? name <;> rfl
  have unset : ({} : Bounds α).rule? name = none := by
    unfold rule?
    split <;> rfl
  rw [mergeAll, fold, unset]
  rfl

def PartOf (b whole : Bounds α) : Prop :=
  ∀ name value, b.rule? name = some value → whole.rule? name = some value

theorem partOf_mergeAll {bs : List (Bounds α)}
    (disjoint : bs.Pairwise fun a b => a.declared.Disjoint b.declared) :
    ∀ b ∈ bs, b.PartOf (mergeAll bs) := by
  intro b member name value set
  have declares : ∀ {b : Bounds α} {value : α}, b.rule? name = some value → name ∈ b.declared :=
    fun set => mem_declared_iff.mpr (Option.isSome_of_eq_some set)
  rw [mergeAll_rule?]
  induction bs with
  | nil => cases member
  | cons first rest ih =>
      obtain ⟨apart, restApart⟩ := List.pairwise_cons.mp disjoint
      rw [List.findSome?_cons]
      rcases List.mem_cons.mp member with rfl | later
      · rw [set]
      · cases earlier : first.rule? name with
        | none => exact ih restApart later
        | some other => exact absurd (declares set) (apart b later (declares earlier))

theorem PartOf.lower? {b whole : Bounds α} (part : b.PartOf whole)
    (single : whole.gt.isSome = true → whole.gte = none) {low : String × α}
    (bounded : b.lower? = some low) : whole.lower? = some low := by
  have gt := part "gt"
  have gte := part "gte"
  simp only [rule?] at gt gte
  cases set : b.gt with
  | some value =>
      rw [Bounds.lower?, gt value set]
      rw [Bounds.lower?, set] at bounded
      exact bounded
  | none =>
      rw [Bounds.lower?, set] at bounded
      obtain ⟨value, inclusive, rfl⟩ := Option.map_eq_some_iff.mp bounded
      have unset : whole.gt = none := by
        by_contra isSet
        have := single (Option.isSome_iff_ne_none.mpr isSet)
        rw [gte value inclusive] at this
        cases this
      rw [Bounds.lower?, unset, gte value inclusive]
      rfl

theorem PartOf.upper? {b whole : Bounds α} (part : b.PartOf whole)
    (single : whole.lt.isSome = true → whole.lte = none) {up : String × α}
    (bounded : b.upper? = some up) : whole.upper? = some up := by
  have lt := part "lt"
  have lte := part "lte"
  simp only [rule?] at lt lte
  cases set : b.lt with
  | some value =>
      rw [Bounds.upper?, lt value set]
      rw [Bounds.upper?, set] at bounded
      exact bounded
  | none =>
      rw [Bounds.upper?, set] at bounded
      obtain ⟨value, inclusive, rfl⟩ := Option.map_eq_some_iff.mp bounded
      have unset : whole.lt = none := by
        by_contra isSet
        have := single (Option.isSome_iff_ne_none.mpr isSet)
        rw [lte value inclusive] at this
        cases this
      rw [Bounds.upper?, unset, lte value inclusive]
      rfl

end Bounds

def comparedNames (allowed denied : Nat) (b : Bounds α) : List String :=
  b.declared ++ named "in" (allowed != 0) ++ named "not_in" (denied != 0)

def contradicts (const lt lte gt gte allowed denied : Bool) : Bool :=
  const && (allowed || denied || lt || lte || gt || gte) || allowed && denied ||
    allowed && (lt || lte || gt || gte) || lt && lte || gt && gte

theorem admits_iff_not_contradicts : ∀ const lt lte gt gte allowed denied : Bool,
    comparisonExclusions.Admits (named "const" const ++ named "lt" lt ++ named "lte" lte ++
      named "gt" gt ++ named "gte" gte ++ named "in" allowed ++ named "not_in" denied) ↔
        contradicts const lt lte gt gte allowed denied = false := by
  decide +kernel

def Bounds.RangeFits [Numeral α] (b : Bounds α) : Prop :=
  ∀ low up, b.lower? = some low → b.upper? = some up → checkRange low up = .ok ()

theorem checkNums_eq_ok_iff [Numeral α] {allowed denied : Nat} {b : Bounds α} :
    checkNums allowed denied b = .ok () ↔
      comparisonExclusions.Admits (comparedNames allowed denied b) ∧ b.RangeFits := by
  have together : comparisonExclusions.Admits (comparedNames allowed denied b) ↔
      contradicts b.const.isSome b.lt.isSome b.lte.isSome b.gt.isSome b.gte.isSome (allowed != 0)
        (denied != 0) = false :=
    admits_iff_not_contradicts _ _ _ _ _ _ _
  rw [together]
  unfold Bounds.RangeFits
  cases lower : b.lower? <;> cases upper : b.upper? <;> cases constant : b.const.isSome <;>
    simp [checkNums, checkSets, contradicts, Bounds.hasRange, bind_eq_ok_iff, exists_unit_iff,
      lower, upper, constant, and_assoc]

end ProtoRules
