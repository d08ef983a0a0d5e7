import Mathlib.Data.List.Pairwise
import ProtoRules.Check.Declared
import ProtoRules.Proofs.Outcome

/-!
Declarations one after the other. They succeed exactly if the names are different and no two of
them exclude each other, in whatever order they come and however they are spread over alternatives.
-/

namespace ProtoRules

@[simp] theorem mem_named {name other : String} {declared : Bool} :
    other ∈ named name declared ↔ other = name ∧ declared = true := by
  cases declared <;> simp [named]

@[simp] theorem nodup_named (name : String) (declared : Bool) : (named name declared).Nodup := by
  cases declared <;> simp [named]

theorem count_named (name other : String) (declared : Bool) :
    (named name declared).count other = if declared ∧ name = other then 1 else 0 := by
  cases declared <;> simp [named, List.count_singleton]

namespace Exclusions

variable {t : Exclusions}

theorem excludes_comm (a b : String) : t.excludes a b = t.excludes b a := by
  simp only [excludes, Bool.or_assoc, Bool.or_comm, Bool.or_left_comm]

structure Allows (t : Exclusions) (a b : String) : Prop where
  ne : a ≠ b
  excludes_eq : t.excludes a b = false

theorem allows_iff {a b : String} : t.Allows a b ↔ a ≠ b ∧ t.excludes a b = false :=
  ⟨fun ⟨ne, excludes⟩ => ⟨ne, excludes⟩, fun ⟨ne, excludes⟩ => ⟨ne, excludes⟩⟩

instance : Std.Symm t.Allows where
  symm _ _ allowed := ⟨allowed.ne.symm, by rw [excludes_comm, allowed.excludes_eq]⟩

def Admits (t : Exclusions) (names : List String) : Prop :=
  names.Pairwise t.Allows

theorem Admits.nodup {names : List String} (admitted : t.Admits names) : names.Nodup :=
  admitted.imp Allows.ne

theorem Admits.sublist {names kept : List String} (admitted : t.Admits names)
    (sublist : kept.Sublist names) : t.Admits kept :=
  List.Pairwise.sublist sublist admitted

section Alternatives

variable {α : Type} {names : α → List String} {rules : List α}

/-- A name is declared by the alternative at one index at most. -/
theorem Admits.index_eq (admitted : t.Admits (rules.flatMap names)) {i j : Nat} {a b : α}
    (first : rules[i]? = some a) (second : rules[j]? = some b) {name : String}
    (inFirst : name ∈ names a) (inSecond : name ∈ names b) : i = j := by
  have apart := List.pairwise_iff_getElem.mp (List.pairwise_flatMap.mp admitted).2
  obtain ⟨iBound, rfl⟩ := List.getElem?_eq_some_iff.mp first
  obtain ⟨jBound, rfl⟩ := List.getElem?_eq_some_iff.mp second
  rcases Nat.lt_trichotomy i j with less | same | greater
  · exact absurd rfl (apart i j iBound jBound less name inFirst name inSecond).ne
  · exact same
  · exact absurd rfl (apart j i jBound iBound greater name inSecond name inFirst).ne

/-- A name is declared by one alternative at most. -/
theorem Admits.eq_of_mem (admitted : t.Admits (rules.flatMap names)) {a b : α}
    (aMember : a ∈ rules) (bMember : b ∈ rules) {name : String} (first : name ∈ names a)
    (second : name ∈ names b) : a = b := by
  obtain ⟨i, aPosition⟩ := List.mem_iff_getElem?.mp aMember
  obtain ⟨j, bPosition⟩ := List.mem_iff_getElem?.mp bMember
  obtain rfl := admitted.index_eq aPosition bPosition first second
  exact Option.some.inj (aPosition.symm.trans bPosition)

end Alternatives

theorem admits_perm {names others : List String} (perm : names.Perm others) :
    t.Admits names ↔ t.Admits others :=
  perm.pairwise_iff fun {_ _} allowed => symm allowed

/-- Of different names only the pairs matter, not the order. -/
theorem admits_iff_of_nodup {names : List String} (nodup : names.Nodup) :
    t.Admits names ↔ ∀ a ∈ names, ∀ b ∈ names, a ≠ b → t.excludes a b = false := by
  constructor
  · intro admitted a aMember b bMember ne
    exact (List.Pairwise.forall admitted aMember bMember ne).excludes_eq
  · intro apart
    refine nodup.imp_of_mem fun aMember bMember ne => ?_
    exact ⟨ne, apart _ aMember _ bMember ne⟩

theorem declare_eq_ok_iff {seen result : List String} {rule : String} :
    t.declare seen rule = (.ok (), result) ↔
      result = seen ++ [rule] ∧ ∀ a ∈ seen, t.Allows a rule := by
  have apart : (∀ a ∈ seen, t.Allows a rule) ↔
      rule ∉ seen ∧ ∀ a ∈ seen, ¬ t.excludes rule a = true := by
    constructor
    · intro allowed
      refine ⟨fun member => (allowed rule member).ne rfl, fun a member => ?_⟩
      rw [excludes_comm, (allowed a member).excludes_eq]
      exact Bool.false_ne_true
    · rintro ⟨fresh, allowed⟩ a member
      refine ⟨fun equality => fresh (equality ▸ member), ?_⟩
      rw [excludes_comm]
      exact Bool.eq_false_iff.mpr (allowed a member)
  rw [apart, ← List.find?_eq_none, declare]
  by_cases repeated : rule ∈ seen
  · simp [repeated]
  · cases found : seen.find? (t.excludes rule) with
    | none => simp [repeated, eq_comm]
    | some other => simp [repeated]

/-- Whether declarations may be made after earlier ones: they clash neither with those nor with each
other. -/
structure Follows (t : Exclusions) (seen names : List String) : Prop where
  admits : t.Admits names
  apart : ∀ a ∈ seen, ∀ b ∈ names, t.Allows a b

theorem follows_nil_iff {names : List String} : t.Follows [] names ↔ t.Admits names :=
  ⟨Follows.admits, fun admitted => ⟨admitted, fun _ member => absurd member List.not_mem_nil⟩⟩

theorem follows_append_iff {seen first rest : List String} :
    t.Follows seen (first ++ rest) ↔ t.Follows seen first ∧ t.Follows (seen ++ first) rest := by
  constructor
  · rintro ⟨admitted, apart⟩
    obtain ⟨firstAdmitted, restAdmitted, between⟩ := List.pairwise_append.mp admitted
    refine ⟨⟨firstAdmitted, fun a aMember b bMember => ?_⟩, restAdmitted, ?_⟩
    · exact apart a aMember b (List.mem_append_left rest bMember)
    · intro a aMember b bMember
      rcases List.mem_append.mp aMember with earlier | new
      · exact apart a earlier b (List.mem_append_right first bMember)
      · exact between a new b bMember
  · rintro ⟨⟨firstAdmitted, firstApart⟩, restAdmitted, restApart⟩
    refine ⟨List.pairwise_append.mpr
      ⟨firstAdmitted, restAdmitted, fun a aMember b bMember => ?_⟩, ?_⟩
    · exact restApart a (List.mem_append_right seen aMember) b bMember
    · intro a aMember b bMember
      rcases List.mem_append.mp bMember with inFirst | inRest
      · exact firstApart a aMember b inFirst
      · exact restApart a (List.mem_append_left first aMember) b inRest

/-- A row succeeds if its first declaration does and the others do after it. -/
theorem declareAll_cons_eq_ok_iff {seen rules result : List String} {rule : String} :
    t.declareAll seen (rule :: rules) = .ok result ↔
      ∃ names, t.declare seen rule = (.ok (), names) ∧ t.declareAll names rules = .ok result := by
  rw [declareAll]
  obtain ⟨outcome, names⟩ := t.declare seen rule
  cases outcome with
  | error e => simp
  | ok _ => simp

theorem declareAll_eq_ok_iff {seen rules result : List String} :
    t.declareAll seen rules = .ok result ↔ t.Follows seen rules ∧ result = seen ++ rules := by
  induction rules generalizing seen with
  | nil =>
      rw [declareAll, Except.ok.injEq, List.append_nil]
      exact ⟨fun equality => ⟨⟨.nil, by simp⟩, equality.symm⟩, fun follows => follows.2.symm⟩
  | cons rule rules ih =>
      have single : t.Follows seen [rule] ↔ ∀ a ∈ seen, t.Allows a rule :=
        ⟨fun follows a member => follows.apart a member rule (by simp),
          fun apart => ⟨List.pairwise_singleton _ _, by simpa using apart⟩⟩
      rw [← List.singleton_append, follows_append_iff, single, List.singleton_append,
        declareAll_cons_eq_ok_iff]
      simp only [declare_eq_ok_iff, ih]
      constructor
      · rintro ⟨names, ⟨rfl, fresh⟩, follows, rfl⟩
        exact ⟨⟨fresh, follows⟩, by simp⟩
      · rintro ⟨⟨fresh, follows⟩, rfl⟩
        exact ⟨seen ++ [rule], ⟨rfl, fresh⟩, follows, by simp⟩

end Exclusions

end ProtoRules
