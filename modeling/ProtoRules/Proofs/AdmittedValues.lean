import ProtoRules.Proofs.Bounds

/-!
Values that bounds admit, and which integer bounds admit some. Integers have neighbours, so each
side of a range leaves a least and a greatest number. What is accepted with bounds on both sides
leaves a choice between two values at least; a bound on one side alone is compared with nothing, so
one at the end of its kind is accepted and leaves no value.
-/

namespace ProtoRules

def Numeral.order {α : Type} [Numeral α] (a b : α) : Ordering :=
  if below a b then .lt else if same a b then .eq else .gt

theorem Word.order_eq_compare {f : IntFormat} (a b : Word f) :
    Numeral.order a b = compare a.val b.val := by
  simp [Numeral.order, Numeral.below, Numeral.same, compare, compareOfLessAndEq]

namespace Bounds

variable {α : Type}

structure Admits [Numeral α] (b : Bounds α) (v : α) : Prop where
  lt : ∀ x ∈ b.lt, (Numeral.order v x).isLT
  lte : ∀ x ∈ b.lte, (Numeral.order v x).isLE
  gt : ∀ x ∈ b.gt, (Numeral.order v x).isGT
  gte : ∀ x ∈ b.gte, (Numeral.order v x).isGE

theorem admits_iff [Numeral α] {b : Bounds α} {v : α} :
    b.Admits v ↔ (∀ x ∈ b.lt, (Numeral.order v x).isLT) ∧ (∀ x ∈ b.lte, (Numeral.order v x).isLE) ∧
      (∀ x ∈ b.gt, (Numeral.order v x).isGT) ∧ (∀ x ∈ b.gte, (Numeral.order v x).isGE) :=
  ⟨fun ⟨lt, lte, gt, gte⟩ => ⟨lt, lte, gt, gte⟩, fun ⟨lt, lte, gt, gte⟩ => ⟨lt, lte, gt, gte⟩⟩

structure Unlimited (b : Bounds α) : Prop where
  lt : b.lt = none
  lte : b.lte = none
  gt : b.gt = none
  gte : b.gte = none

theorem unlimited_iff {b : Bounds α} : b.Unlimited ↔
    b.lt.isSome = false ∧ b.lte.isSome = false ∧ b.gt.isSome = false ∧ b.gte.isSome = false := by
  simp only [Option.isSome_eq_false_iff, Option.isNone_iff_eq_none]
  exact ⟨fun ⟨lt, lte, gt, gte⟩ => ⟨lt, lte, gt, gte⟩, fun ⟨lt, lte, gt, gte⟩ => ⟨lt, lte, gt, gte⟩⟩

/-- Whether neither side has two bounds. -/
structure Single (b : Bounds α) : Prop where
  lower : ¬ (b.gt.isSome = true ∧ b.gte.isSome = true)
  upper : ¬ (b.lt.isSome = true ∧ b.lte.isSome = true)

end Bounds

variable {f : IntFormat}

theorem Word.admits_iff {b : Bounds (Word f)} {v : Word f} :
    b.Admits v ↔ (∀ x ∈ b.lt, v.val < x.val) ∧ (∀ x ∈ b.lte, v.val ≤ x.val) ∧
      (∀ x ∈ b.gt, x.val < v.val) ∧ (∀ x ∈ b.gte, x.val ≤ v.val) := by
  simp only [Bounds.admits_iff, Word.order_eq_compare, Int.isLE_compare, Int.isGE_compare,
    Ordering.isLT_iff_eq_lt, Ordering.isGT_iff_eq_gt, Int.compare_eq_lt, Int.compare_eq_gt]

namespace Bounds

def leastAbove (low : String × Word f) : Int :=
  if low.1 = "gt" then low.2.val + 1 else low.2.val

def greatestBelow (up : String × Word f) : Int :=
  if up.1 = "lt" then up.2.val - 1 else up.2.val

private theorem leastAbove_bounds (low : String × Word f) :
    low.2.val ≤ leastAbove low ∧ leastAbove low ≤ low.2.val + 1 := by
  unfold leastAbove
  split <;> omega

private theorem greatestBelow_bounds (up : String × Word f) :
    up.2.val - 1 ≤ greatestBelow up ∧ greatestBelow up ≤ up.2.val := by
  unfold greatestBelow
  split <;> omega

private theorem next?_eq_ofInt? (low : String × Word f) :
    (if low.1 = "gt" then Numeral.next? low.2 else some low.2) =
      Word.ofInt? f (leastAbove low) := by
  unfold leastAbove
  split
  · rfl
  · exact (Word.ofInt?_val low.2).symm

private theorem prev?_eq_ofInt? (up : String × Word f) :
    (if up.1 = "lt" then Numeral.prev? up.2 else some up.2) =
      Word.ofInt? f (greatestBelow up) := by
  unfold greatestBelow
  split
  · rfl
  · exact (Word.ofInt?_val up.2).symm

/-- A range is accepted if it has room for two numbers. -/
theorem checkRange_eq_ok_iff {low up : String × Word f} :
    checkRange low up = .ok () ↔ leastAbove low < greatestBelow up := by
  have first := leastAbove_bounds low
  have last := greatestBelow_bounds up
  by_cases ordered : low.2.val < up.2.val
  · -- neither bound is at the end of the kind that its neighbour would pass: the other one is there
    have lowest := low.2.lo_le
    have highest := up.2.le_hi
    have firstExists := Word.ofInt?_val (f := f) ⟨leastAbove low, by omega, by omega⟩
    have lastExists := Word.ofInt?_val (f := f) ⟨greatestBelow up, by omega, by omega⟩
    have distinct : Numeral.same up.2 low.2 = false := by simp [Numeral.same]; omega
    have below : Numeral.below low.2 up.2 = true := by simp [Numeral.below]; omega
    rw [checkRange]
    simp only [next?_eq_ofInt?, prev?_eq_ofInt?, firstExists, lastExists, distinct, below,
      bind_eq_ok_iff, exists_unit_iff, refuse_eq_ok_iff, Bool.not_true, true_and]
    simp only [Numeral.same, Numeral.below, decide_eq_false_iff_not, beq_eq_false_iff_ne]
    omega
  · have refused : Numeral.same up.2 low.2 = true ∨ Numeral.below low.2 up.2 = false := by
      simp [Numeral.same, Numeral.below]
      omega
    refine iff_of_false ?_ (by omega)
    rw [checkRange]
    simp only [bind_eq_ok_iff, exists_unit_iff, refuse_eq_ok_iff]
    grind

/-- The least number that the lower side leaves. -/
def least (b : Bounds (Word f)) : Int :=
  (b.lower?.map leastAbove).getD f.lo

/-- The greatest number that the upper side leaves. -/
def greatest (b : Bounds (Word f)) : Int :=
  (b.upper?.map greatestBelow).getD f.hi

variable {b : Bounds (Word f)}

private theorem least_of_gt {x : Word f} (exclusive : b.gt = some x) : b.least = x.val + 1 := by
  simp [least, lower?, exclusive, leastAbove]

private theorem least_of_gte {x : Word f} (exclusive : b.gt = none) (inclusive : b.gte = some x) :
    b.least = x.val := by
  simp [least, lower?, exclusive, inclusive, leastAbove]

private theorem least_of_none (exclusive : b.gt = none) (inclusive : b.gte = none) :
    b.least = f.lo := by
  simp [least, lower?, exclusive, inclusive]

private theorem greatest_of_lt {x : Word f} (exclusive : b.lt = some x) :
    b.greatest = x.val - 1 := by
  simp [greatest, upper?, exclusive, greatestBelow]

private theorem greatest_of_lte {x : Word f} (exclusive : b.lt = none)
    (inclusive : b.lte = some x) :
    b.greatest = x.val := by
  simp [greatest, upper?, exclusive, inclusive, greatestBelow]

private theorem greatest_of_none (exclusive : b.lt = none) (inclusive : b.lte = none) :
    b.greatest = f.hi := by
  simp [greatest, upper?, exclusive, inclusive]

private theorem lo_le_least (b : Bounds (Word f)) : f.lo ≤ b.least := by
  unfold least
  cases b.lower? with
  | none => exact Int.le_refl _
  | some low => exact Int.le_trans low.2.lo_le (leastAbove_bounds low).1

private theorem greatest_le_hi (b : Bounds (Word f)) : b.greatest ≤ f.hi := by
  unfold greatest
  cases b.upper? with
  | none => exact Int.le_refl _
  | some up => exact Int.le_trans (greatestBelow_bounds up).2 up.2.le_hi

theorem rangeFits_iff :
    b.RangeFits ↔ (b.lower?.isSome = true → b.upper?.isSome = true → b.least < b.greatest) := by
  simp only [RangeFits, checkRange_eq_ok_iff, least, greatest]
  cases b.lower? <;> cases b.upper? <;> simp

namespace Single

variable {v : Word f}

theorem least_le_iff (single : b.Single) :
    b.least ≤ v.val ↔ (∀ x ∈ b.gt, x.val < v.val) ∧ ∀ x ∈ b.gte, x.val ≤ v.val := by
  cases exclusive : b.gt with
  | some x =>
      have other : b.gte = none := by simpa [exclusive] using single.lower
      rw [least_of_gt exclusive, other]
      simp only [Int.add_one_le_iff, Option.mem_def, Option.some.injEq, forall_eq', reduceCtorEq,
        IsEmpty.forall_iff, implies_true, and_true]
  | none =>
      cases inclusive : b.gte with
      | some x => simp [least_of_gte exclusive inclusive]
      | none => simpa [least_of_none exclusive inclusive] using v.lo_le

theorem le_greatest_iff (single : b.Single) :
    v.val ≤ b.greatest ↔ (∀ x ∈ b.lt, v.val < x.val) ∧ ∀ x ∈ b.lte, v.val ≤ x.val := by
  cases exclusive : b.lt with
  | some x =>
      have other : b.lte = none := by simpa [exclusive] using single.upper
      rw [greatest_of_lt exclusive, other]
      simp only [Int.le_sub_one_iff, Option.mem_def, Option.some.injEq, forall_eq', reduceCtorEq,
        IsEmpty.forall_iff, implies_true, and_true]
  | none =>
      cases inclusive : b.lte with
      | some x => simp [greatest_of_lte exclusive inclusive]
      | none => simpa [greatest_of_none exclusive inclusive] using v.le_hi

theorem admits_iff (single : b.Single) : b.Admits v ↔ b.least ≤ v.val ∧ v.val ≤ b.greatest := by
  rw [Word.admits_iff, single.least_le_iff, single.le_greatest_iff]
  constructor
  · rintro ⟨lt, lte, gt, gte⟩
    exact ⟨⟨gt, gte⟩, lt, lte⟩
  · rintro ⟨⟨gt, gte⟩, lt, lte⟩
    exact ⟨lt, lte, gt, gte⟩

theorem exists_admitted_iff (single : b.Single) : (∃ v, b.Admits v) ↔ b.least ≤ b.greatest := by
  simp only [single.admits_iff]
  constructor
  · rintro ⟨v, least, greatest⟩
    exact Int.le_trans least greatest
  · intro ordered
    exact ⟨⟨b.least, b.lo_le_least, Int.le_trans ordered b.greatest_le_hi⟩, Int.le_refl _, ordered⟩

theorem two_admitted_iff (single : b.Single) :
    (∃ v w, v ≠ w ∧ b.Admits v ∧ b.Admits w) ↔ b.least < b.greatest := by
  simp only [single.admits_iff]
  constructor
  · rintro ⟨v, w, distinct, vBetween, wBetween⟩
    have apart : v.val ≠ w.val := fun same => distinct (Word.ext same)
    omega
  · intro ordered
    have least := b.lo_le_least
    have greatest := b.greatest_le_hi
    refine ⟨⟨b.least, least, by omega⟩, ⟨b.greatest, by omega, greatest⟩, ?_, ?_, ?_⟩
    · intro same
      exact Int.ne_of_lt ordered (congrArg Word.val same)
    · exact ⟨Int.le_refl _, Int.le_of_lt ordered⟩
    · exact ⟨Int.le_of_lt ordered, Int.le_refl _⟩

end Single

end Bounds

namespace Bounds

/-- Integer rules that do not settle the value: what is fixed stands alone, and a range has room for
two values. -/
structure LeavesChoice (b : Bounds (Word f)) (allowed denied : Nat) : Prop where
  const : b.const.isSome = true → b.Unlimited ∧ allowed = 0 ∧ denied = 0
  sets : ¬ (0 < allowed ∧ 0 < denied)
  listed : 0 < allowed → b.Unlimited
  single : b.Single
  range : b.gt.isSome = true ∨ b.gte.isSome = true → b.lt.isSome = true ∨ b.lte.isSome = true →
    ∃ v w, v ≠ w ∧ b.Admits v ∧ b.Admits w

theorem lower?_isSome_iff {α : Type} {b : Bounds α} :
    b.lower?.isSome = true ↔ b.gt.isSome = true ∨ b.gte.isSome = true := by
  unfold lower?
  cases b.gt <;> cases b.gte <;> simp

theorem upper?_isSome_iff {α : Type} {b : Bounds α} :
    b.upper?.isSome = true ↔ b.lt.isSome = true ∨ b.lte.isSome = true := by
  unfold upper?
  cases b.lt <;> cases b.lte <;> simp

theorem admits_comparedNames_iff {α : Type} {b : Bounds α} {allowed denied : Nat} :
    comparisonExclusions.Admits (comparedNames allowed denied b) ↔
      (b.const.isSome = true → b.Unlimited ∧ allowed = 0 ∧ denied = 0) ∧
      ¬ (0 < allowed ∧ 0 < denied) ∧ (0 < allowed → b.Unlimited) ∧ b.Single := by
  have single : b.Single ↔ ¬ (b.gt.isSome = true ∧ b.gte.isSome = true) ∧
      ¬ (b.lt.isSome = true ∧ b.lte.isSome = true) :=
    ⟨fun ⟨lower, upper⟩ => ⟨lower, upper⟩, fun ⟨lower, upper⟩ => ⟨lower, upper⟩⟩
  have listed : (allowed != 0) = decide (0 < allowed) := by grind
  have excluded : (denied != 0) = decide (0 < denied) := by grind
  refine (admits_iff_not_contradicts _ _ _ _ _ _ _).trans ?_
  rw [unlimited_iff, single, listed, excluded]
  simp only [contradicts, Bool.or_eq_false_iff, Bool.and_eq_false_iff, decide_eq_false_iff_not]
  cases b.const.isSome <;> cases b.lt.isSome <;> cases b.lte.isSome <;> cases b.gt.isSome <;>
    cases b.gte.isSome <;> simp <;> omega

end Bounds

/-- Exactly the integer rules that leave a choice are accepted. -/
theorem checkNums_eq_ok_iff_leavesChoice {b : Bounds (Word f)} {allowed denied : Nat} :
    checkNums allowed denied b = .ok () ↔ b.LeavesChoice allowed denied := by
  rw [checkNums_eq_ok_iff, Bounds.admits_comparedNames_iff, Bounds.rangeFits_iff,
    Bounds.lower?_isSome_iff, Bounds.upper?_isSome_iff]
  constructor
  · rintro ⟨⟨const, sets, listed, single⟩, range⟩
    exact ⟨const, sets, listed, single, by simpa only [single.two_admitted_iff] using range⟩
  · rintro ⟨const, sets, listed, single, range⟩
    exact ⟨⟨const, sets, listed, single⟩, by simpa only [single.two_admitted_iff] using range⟩

namespace Bounds

variable {b : Bounds (Word f)}

theorem lo_le_greatest_iff : f.lo ≤ b.greatest ↔ ∀ x ∈ b.lt, x.val ≠ f.lo := by
  cases exclusive : b.lt with
  | some x =>
      have lowest := x.lo_le
      have room : f.lo ≤ x.val - 1 ↔ x.val ≠ f.lo := by omega
      simpa [greatest_of_lt exclusive] using room
  | none =>
      cases inclusive : b.lte with
      | some x => simpa [greatest_of_lte exclusive inclusive] using x.lo_le
      | none =>
          have ordered := Int.le_trans f.lo_le_zero f.zero_le_hi
          simpa [greatest_of_none exclusive inclusive] using ordered

theorem least_le_hi_iff : b.least ≤ f.hi ↔ ∀ x ∈ b.gt, x.val ≠ f.hi := by
  cases exclusive : b.gt with
  | some x =>
      have highest := x.le_hi
      have room : x.val + 1 ≤ f.hi ↔ x.val ≠ f.hi := by omega
      simpa [least_of_gt exclusive] using room
  | none =>
      cases inclusive : b.gte with
      | some x => simpa [least_of_gte exclusive inclusive] using x.le_hi
      | none =>
          have ordered := Int.le_trans f.lo_le_zero f.zero_le_hi
          simpa [least_of_none exclusive inclusive] using ordered

/-- With two sides that are compared it is enough that each of them leaves a number of the kind. -/
theorem least_le_greatest_iff (fits : b.RangeFits) :
    b.least ≤ b.greatest ↔ f.lo ≤ b.greatest ∧ b.least ≤ f.hi := by
  have lowest := b.lo_le_least
  have highest := b.greatest_le_hi
  have range := rangeFits_iff.mp fits
  cases lower : b.lower? with
  | none =>
      have unbounded : b.least = f.lo := by simp [least, lower]
      omega
  | some low =>
      cases upper : b.upper? with
      | none =>
          have unbounded : b.greatest = f.hi := by simp [greatest, upper]
          omega
      | some up =>
          have ordered := range (by rw [lower]; rfl) (by rw [upper]; rfl)
          omega

theorem Unlimited.admits {b : Bounds (Word f)} (unlimited : b.Unlimited) (v : Word f) :
    b.Admits v := by
  obtain ⟨lt, lte, gt, gte⟩ := unlimited
  exact Word.admits_iff.mpr ⟨by simp [lt], by simp [lte], by simp [gt], by simp [gte]⟩

end Bounds

/-- Accepted integer rules can be satisfied unless nothing of the kind lies below `lt` or above
`gt`. -/
theorem satisfiable_iff_of_checkNums {b : Bounds (Word f)} {allowed denied : Nat}
    (accepted : checkNums allowed denied b = .ok ()) :
    (∃ v, (∀ c ∈ b.const, v = c) ∧ b.Admits v) ↔
      (∀ x ∈ b.lt, x.val ≠ f.lo) ∧ ∀ x ∈ b.gt, x.val ≠ f.hi := by
  have choice := checkNums_eq_ok_iff_leavesChoice.mp accepted
  cases const : b.const with
  | some c =>
      obtain ⟨unlimited, _⟩ := choice.const (Option.isSome_of_eq_some const)
      refine iff_of_true ⟨c, by simp, unlimited.admits c⟩ ?_
      simp [unlimited.lt, unlimited.gt]
  | none =>
      have fits := (checkNums_eq_ok_iff.mp accepted).2
      simp only [Option.mem_def, reduceCtorEq, false_implies, implies_true, true_and]
      rw [choice.single.exists_admitted_iff, Bounds.least_le_greatest_iff fits,
        Bounds.lo_le_greatest_iff, Bounds.least_le_hi_iff]
      rfl

def positiveCount : Bounds (Word .uint32) :=
  { gt := some 0 }

theorem positiveCount_satisfiable :
    checkNums 0 0 positiveCount = .ok () ∧
      ∃ v, (∀ c ∈ positiveCount.const, v = c) ∧ positiveCount.Admits v := by
  have accepted : checkNums 0 0 positiveCount = .ok () := rfl
  have lt : ∀ x ∈ positiveCount.lt, x.val ≠ IntFormat.uint32.lo := by decide
  have gt : ∀ x ∈ positiveCount.gt, x.val ≠ IntFormat.uint32.hi := by decide
  exact ⟨accepted, (satisfiable_iff_of_checkNums accepted).mpr ⟨lt, gt⟩⟩

def negativeCount : Bounds (Word .uint32) :=
  { lt := some 0 }

theorem negativeCount_accepted_unsatisfiable :
    checkNums 0 0 negativeCount = .ok () ∧
      ¬ ∃ v, (∀ c ∈ negativeCount.const, v = c) ∧ negativeCount.Admits v := by
  refine ⟨rfl, ?_⟩
  rintro ⟨v, _, admitted⟩
  have below : v.val < 0 := (Word.admits_iff.mp admitted).1 0 rfl
  exact absurd v.lo_le (Int.not_le.mpr below)

end ProtoRules
