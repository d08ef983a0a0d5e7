import ProtoRules.Proofs.AdmittedValues

/-!
Bounds that several alternatives declare together. If no bound is declared twice, the merged bounds
admit what every alternative admits. Over all integers bounds on both sides are accepted exactly if
they leave a choice between two numbers.
-/

namespace ProtoRules

namespace Bounds

variable {α : Type} {bs : List (Bounds α)}

theorem mergeAll_rule?_isSome_iff {name : String} :
    ((mergeAll bs).rule? name).isSome = true ↔ ∃ b ∈ bs, (b.rule? name).isSome = true := by
  rw [mergeAll_rule?, List.findSome?_isSome_iff]

theorem forall_mem_mergeAll_iff
    (disjoint : bs.Pairwise fun a b => a.declared.Disjoint b.declared) (name : String)
    {P : α → Prop} :
    (∀ x ∈ (mergeAll bs).rule? name, P x) ↔ ∀ b ∈ bs, ∀ x ∈ b.rule? name, P x := by
  constructor
  · intro holds b member x set
    exact holds x (partOf_mergeAll disjoint b member name x set)
  · intro holds x set
    rw [mergeAll_rule?] at set
    obtain ⟨b, member, set⟩ := List.exists_of_findSome?_eq_some set
    exact holds b member x set

theorem mergeAll_admits_iff [Numeral α]
    (disjoint : bs.Pairwise fun a b => a.declared.Disjoint b.declared) {v : α} :
    (mergeAll bs).Admits v ↔ ∀ b ∈ bs, b.Admits v := by
  simp only [admits_iff, forall_and]
  exact and_congr (forall_mem_mergeAll_iff disjoint "lt")
    (and_congr (forall_mem_mergeAll_iff disjoint "lte")
      (and_congr (forall_mem_mergeAll_iff disjoint "gt") (forall_mem_mergeAll_iff disjoint "gte")))

theorem admits_int_iff {b : Bounds Int} {n : Int} : b.Admits n ↔
    (∀ x ∈ b.lt, n < x) ∧ (∀ x ∈ b.lte, n ≤ x) ∧ (∀ x ∈ b.gt, x < n) ∧ ∀ x ∈ b.gte, x ≤ n := by
  have order : ∀ x, Numeral.order n x = compare n x := by
    intro x
    simp [Numeral.order, Numeral.below, Numeral.same, compare, compareOfLessAndEq]
  simp only [admits_iff, order, Int.isLE_compare, Int.isGE_compare, Ordering.isLT_iff_eq_lt,
    Ordering.isGT_iff_eq_gt, Int.compare_eq_lt, Int.compare_eq_gt]

def firstAbove (low : String × Int) : Int :=
  if low.1 = "gt" then low.2 + 1 else low.2

def lastBelow (up : String × Int) : Int :=
  if up.1 = "lt" then up.2 - 1 else up.2

theorem checkRange_int_eq_ok_iff {low up : String × Int} :
    checkRange low up = .ok () ↔ firstAbove low < lastBelow up := by
  have first : (if low.1 = "gt" then Numeral.next? low.2 else some low.2) =
      some (firstAbove low) := by
    unfold firstAbove
    split <;> rfl
  have last : (if up.1 = "lt" then Numeral.prev? up.2 else some up.2) = some (lastBelow up) := by
    unfold lastBelow
    split <;> rfl
  have firstBound : low.2 ≤ firstAbove low := by unfold firstAbove; split <;> omega
  have lastBound : lastBelow up ≤ up.2 := by unfold lastBelow; split <;> omega
  rw [checkRange]
  simp only [first, last, bind_eq_ok_iff, exists_unit_iff, refuse_eq_ok_iff]
  simp only [Numeral.same, Numeral.below, Bool.not_eq_false', decide_eq_false_iff_not,
    decide_eq_true_eq, beq_eq_false_iff_ne]
  omega

theorem firstAbove_le_iff {b : Bounds Int} (single : b.Single) {low : String × Int}
    (lower : b.lower? = some low) {n : Int} :
    firstAbove low ≤ n ↔ (∀ x ∈ b.gt, x < n) ∧ ∀ x ∈ b.gte, x ≤ n := by
  cases exclusive : b.gt with
  | some x =>
      have other : b.gte = none := by simpa [exclusive] using single.lower
      obtain rfl : ("gt", x) = low := by simpa [lower?, exclusive] using lower
      simp only [firstAbove, ↓reduceIte, other, Int.add_one_le_iff, Option.mem_def,
        Option.some.injEq, forall_eq', reduceCtorEq, IsEmpty.forall_iff, implies_true, and_true]
  | none =>
      obtain ⟨x, inclusive, rfl⟩ : ∃ x, b.gte = some x ∧ ("gte", x) = low := by
        simpa [lower?, exclusive] using lower
      simp [firstAbove, inclusive]

theorem le_lastBelow_iff {b : Bounds Int} (single : b.Single) {up : String × Int}
    (upper : b.upper? = some up) {n : Int} :
    n ≤ lastBelow up ↔ (∀ x ∈ b.lt, n < x) ∧ ∀ x ∈ b.lte, n ≤ x := by
  cases exclusive : b.lt with
  | some x =>
      have other : b.lte = none := by simpa [exclusive] using single.upper
      obtain rfl : ("lt", x) = up := by simpa [upper?, exclusive] using upper
      simp only [lastBelow, ↓reduceIte, other, Int.le_sub_one_iff, Option.mem_def,
        Option.some.injEq, forall_eq', reduceCtorEq, IsEmpty.forall_iff, implies_true, and_true]
  | none =>
      obtain ⟨x, inclusive, rfl⟩ : ∃ x, b.lte = some x ∧ ("lte", x) = up := by
        simpa [upper?, exclusive] using upper
      simp [lastBelow, inclusive]

/-- A range over all integers is accepted exactly if two numbers are in it. -/
private theorem checkRange_eq_ok_iff_exists_two {b : Bounds Int} (single : b.Single)
    {low up : String × Int} (lower : b.lower? = some low) (upper : b.upper? = some up) :
    checkRange low up = .ok () ↔ ∃ v w, v ≠ w ∧ b.Admits v ∧ b.Admits w := by
  have between : ∀ n, b.Admits n ↔ firstAbove low ≤ n ∧ n ≤ lastBelow up := by
    intro n
    rw [admits_int_iff, firstAbove_le_iff single lower, le_lastBelow_iff single upper]
    constructor
    · rintro ⟨lt, lte, gt, gte⟩
      exact ⟨⟨gt, gte⟩, lt, lte⟩
    · rintro ⟨⟨gt, gte⟩, lt, lte⟩
      exact ⟨lt, lte, gt, gte⟩
  simp only [checkRange_int_eq_ok_iff, between]
  constructor
  · intro ordered
    exact ⟨firstAbove low, lastBelow up, by omega, by omega, by omega⟩
  · rintro ⟨v, w, distinct, vBetween, wBetween⟩
    omega

theorem rangeFits_int_iff {b : Bounds Int} (single : b.Single) :
    b.RangeFits ↔ (b.lower?.isSome = true → b.upper?.isSome = true →
      ∃ v w, v ≠ w ∧ b.Admits v ∧ b.Admits w) := by
  constructor
  · intro fits lower upper
    obtain ⟨low, lower⟩ := Option.isSome_iff_exists.mp lower
    obtain ⟨up, upper⟩ := Option.isSome_iff_exists.mp upper
    exact (checkRange_eq_ok_iff_exists_two single lower upper).mp (fits low up lower upper)
  · intro choice low up lower upper
    exact (checkRange_eq_ok_iff_exists_two single lower upper).mpr
      (choice (Option.isSome_of_eq_some lower) (Option.isSome_of_eq_some upper))

end Bounds

end ProtoRules
