import Mathlib.Data.Prod.Lex
import Mathlib.Data.Set.Function
import ProtoRules.Proofs.Literals

/-!
Numbers of nanoseconds and the literals that stand for them. Every number within reach belongs to
one valid literal: a duration is cut towards zero, so that its parts share their sign, and a point
in time towards the past, so that its nanoseconds count upwards. Literals are ordered as their
numbers are, and no step from a literal to its number leaves the words that it is computed in.
-/

namespace ProtoRules

namespace Word

variable {f g : IntFormat} {bits : Nat}

private theorem exists_ofInt? {n : Int} (lo_le : f.lo ≤ n) (le_hi : n ≤ f.hi) :
    ∃ w, ofInt? f n = some w ∧ w.val = n :=
  ⟨⟨n, lo_le, le_hi⟩, by simp [ofInt?, lo_le, le_hi], rfl⟩

def magnitude? (a : Word (.signed bits)) : Option (Word (.unsigned bits)) :=
  ofInt? (.unsigned bits) a.val.natAbs

def widen? (g : IntFormat) (a : Word f) : Option (Word g) :=
  ofInt? g a.val

def add? (a b : Word f) : Option (Word f) :=
  ofInt? f (a.val + b.val)

def mul? (a b : Word f) : Option (Word f) :=
  ofInt? f (a.val * b.val)

/-- The least number has no negative in its own format, but a magnitude without sign. -/
private theorem exists_magnitude? (positive : 0 < bits) (a : Word (.signed bits)) :
    ∃ m, a.magnitude? = some m ∧ m.val = a.val.natAbs := by
  have half : IntFormat.count bits = 2 * IntFormat.count (bits - 1) := by
    obtain ⟨bits, rfl⟩ := Nat.exists_eq_succ_of_ne_zero positive.ne'
    simp only [IntFormat.count, Nat.one_shiftLeft, Nat.succ_sub_one, Nat.pow_succ, Nat.mul_comm]
  have some := IntFormat.count_pos (bits - 1)
  have lowest : -(IntFormat.count (bits - 1) : Int) ≤ a.val := a.lo_le
  have highest : a.val ≤ IntFormat.count (bits - 1) - 1 := a.le_hi
  refine exists_ofInt? (Int.natCast_nonneg _) ?_
  simp only [IntFormat.hi, half]
  omega

end Word

/-- A second in nanoseconds, as a word. -/
def secondWord : Word .int32 := ⟨nanosPerSecond, by decide, by decide⟩

def durationLimit : Word .int64 := ⟨maxDurationSeconds, by decide, by decide⟩

/-- The number of nanoseconds of two parts in words of 128 bits. -/
def flatten? (seconds : Word .int64) (nanos : Word .int32) : Option (Word .int128) := do
  let whole ← (← seconds.widen? .int128).mul? (← secondWord.widen? .int128)
  whole.add? (← nanos.widen? .int128)

private theorem exists_flatten? (seconds : Word .int64) (nanos : Word .int32) :
    ∃ w, flatten? seconds nanos = some w ∧
      w.val = seconds.val * nanosPerSecond + nanos.val := by
  have lowestSecond : -9223372036854775808 ≤ seconds.val := seconds.lo_le
  have highestSecond : seconds.val ≤ 9223372036854775807 := seconds.le_hi
  have lowestNano : -2147483648 ≤ nanos.val := nanos.lo_le
  have highestNano : nanos.val ≤ 2147483647 := nanos.le_hi
  have lo : IntFormat.int128.lo = -170141183460469231731687303715884105728 := rfl
  have hi : IntFormat.int128.hi = 170141183460469231731687303715884105727 := rfl
  obtain ⟨s, widened, sVal⟩ : ∃ s, seconds.widen? .int128 = some s ∧ s.val = seconds.val :=
    Word.exists_ofInt? (by omega) (by omega)
  obtain ⟨k, constant, kVal⟩ : ∃ k, secondWord.widen? .int128 = some k ∧ k.val = nanosPerSecond :=
    Word.exists_ofInt? (by decide) (by decide)
  obtain ⟨n, extended, nVal⟩ : ∃ n, nanos.widen? .int128 = some n ∧ n.val = nanos.val :=
    Word.exists_ofInt? (by omega) (by omega)
  obtain ⟨p, product, pVal⟩ : ∃ p, s.mul? k = some p ∧ p.val = s.val * k.val := by
    refine Word.exists_ofInt? ?_ ?_ <;> simp only [sVal, kVal, nanosPerSecond] <;> omega
  obtain ⟨w, sum, wVal⟩ : ∃ w, p.add? n = some w ∧ w.val = p.val + n.val := by
    refine Word.exists_ofInt? ?_ ?_ <;> simp only [pVal, sVal, kVal, nVal, nanosPerSecond] <;> omega
  refine ⟨w, ?_, by rw [wVal, pVal, sVal, kVal, nVal]⟩
  simp [flatten?, widened, constant, extended, product, sum]

/-- The parts of a literal, compared one after the other. -/
def orderedParts (seconds : Word .int64) (nanos : Word .int32) : Int ×ₗ Int :=
  toLex (seconds.val, nanos.val)

private theorem orderedParts_inj {seconds seconds' : Word .int64} {nanos nanos' : Word .int32} :
    orderedParts seconds nanos = orderedParts seconds' nanos' ↔
      seconds = seconds' ∧ nanos = nanos' := by
  rw [orderedParts, orderedParts, toLex_inj, Prod.mk.injEq]
  exact ⟨fun ⟨first, second⟩ => ⟨Word.ext first, Word.ext second⟩,
    fun ⟨first, second⟩ => ⟨congrArg Word.val first, congrArg Word.val second⟩⟩

private theorem exists_words {s n : Int}
    (seconds : -maxDurationSeconds ≤ s ∧ s ≤ maxDurationSeconds)
    (nanos : -nanosPerSecond < n ∧ n < nanosPerSecond) :
    ∃ (a : Word .int64) (b : Word .int32), a.val = s ∧ b.val = n := by
  have lowestSecond : IntFormat.int64.lo ≤ -maxDurationSeconds := by decide
  have highestSecond : maxDurationSeconds ≤ IntFormat.int64.hi := by decide
  have lowestNano : IntFormat.int32.lo ≤ -nanosPerSecond := by decide
  have highestNano : nanosPerSecond ≤ IntFormat.int32.hi := by decide
  exact ⟨⟨s, by omega, by omega⟩, ⟨n, by omega, by omega⟩, rfl, rfl⟩

/-- Literals that stand for the numbers of an interval, one for each and in the same order; the
others are refused. -/
structure FlattensOnto {α : Type} (flatten : α → Except TemporalError Int) (InRange : α → Prop)
    (parts : α → Int ×ₗ Int) (lo hi : Int) : Prop where
  bijOn : Set.BijOn flatten {a | InRange a} (Except.ok '' {n | lo ≤ n ∧ n ≤ hi})
  lt_iff : ∀ a b n m, flatten a = .ok n → flatten b = .ok m → (parts a < parts b ↔ n < m)
  refused : ∀ a, ¬ InRange a → ∃ e, flatten a = .error e

private theorem FlattensOnto.of_value {α : Type} {flatten : α → Except TemporalError Int}
    {InRange : α → Prop} {parts : α → Int ×ₗ Int} {lo hi : Int} {value : α → Int}
    (reads : ∀ a n, flatten a = .ok n ↔ InRange a ∧ n = value a)
    (injective : parts.Injective)
    (order : ∀ a b, InRange a → InRange b → (parts a < parts b ↔ value a < value b))
    (within : ∀ a, InRange a → lo ≤ value a ∧ value a ≤ hi)
    (reached : ∀ n, lo ≤ n → n ≤ hi → ∃ a, InRange a ∧ value a = n) :
    FlattensOnto flatten InRange parts lo hi := by
  have read {a : α} (inRange : InRange a) : flatten a = .ok (value a) :=
    (reads a _).mpr ⟨inRange, rfl⟩
  refine ⟨⟨?_, ?_, ?_⟩, ?_, ?_⟩
  · intro a inRange
    exact ⟨value a, within a inRange, (read inRange).symm⟩
  · intro a aInRange b bInRange same
    rw [read aInRange, read bInRange, Except.ok.injEq] at same
    have notBefore := mt (order a b aInRange bInRange).mp (by omega)
    have notAfter := mt (order b a bInRange aInRange).mp (by omega)
    exact injective (le_antisymm (not_lt.mp notAfter) (not_lt.mp notBefore))
  · rintro _ ⟨n, ⟨lo_le, le_hi⟩, rfl⟩
    obtain ⟨a, inRange, rfl⟩ := reached n lo_le le_hi
    exact ⟨a, inRange, read inRange⟩
  · intro a b n m first second
    obtain ⟨aInRange, rfl⟩ := (reads a n).mp first
    obtain ⟨bInRange, rfl⟩ := (reads b m).mp second
    exact order a b aInRange bInRange
  · intro a outside
    cases flat : flatten a with
    | error e => exact ⟨e, rfl⟩
    | ok n => exact absurd ((reads a n).mp flat).1 outside

namespace DurationLiteral

structure InRange (d : DurationLiteral) : Prop where
  seconds : -maxDurationSeconds ≤ d.seconds.val ∧ d.seconds.val ≤ maxDurationSeconds
  nanos : -nanosPerSecond < d.nanos.val ∧ d.nanos.val < nanosPerSecond
  signs : ¬ (0 < d.seconds.val ∧ d.nanos.val < 0) ∧ ¬ (d.seconds.val < 0 ∧ 0 < d.nanos.val)

def parts (d : DurationLiteral) : Int ×ₗ Int :=
  orderedParts d.seconds d.nanos

theorem parts_injective : parts.Injective := by
  intro d e same
  obtain ⟨seconds, nanos⟩ := orderedParts_inj.mp same
  cases d
  cases e
  rw [mk.injEq]
  exact ⟨seconds, nanos⟩

theorem valid_iff_inRange {d : DurationLiteral} : d.Valid ↔ d.InRange := by
  have conditions : d.InRange ↔ ¬ maxDurationSeconds < d.seconds.val.natAbs ∧
      ¬ nanosPerSecond ≤ d.nanos.val.natAbs ∧
      ¬ ((0 < d.seconds.val ∧ d.nanos.val < 0) ∨ (d.seconds.val < 0 ∧ 0 < d.nanos.val)) := by
    rw [not_or]
    constructor
    · rintro ⟨seconds, nanos, signs⟩
      exact ⟨by omega, by omega, signs⟩
    · rintro ⟨seconds, nanos, signs⟩
      exact ⟨by omega, by omega, signs⟩
  rw [conditions, Valid, totalNanos]
  by_cases seconds : maxDurationSeconds < d.seconds.val.natAbs
  · rw [if_pos seconds]
    exact iff_of_false (fun ⟨_, read⟩ => nomatch read) fun inRange => inRange.1 seconds
  · rw [if_neg seconds]
    by_cases nanos : nanosPerSecond ≤ d.nanos.val.natAbs
    · rw [if_pos nanos]
      exact iff_of_false (fun ⟨_, read⟩ => nomatch read) fun inRange => inRange.2.1 nanos
    · rw [if_neg nanos]
      by_cases signs : (0 < d.seconds.val ∧ d.nanos.val < 0) ∨
          (d.seconds.val < 0 ∧ 0 < d.nanos.val)
      · rw [if_pos signs]
        exact iff_of_false (fun ⟨_, read⟩ => nomatch read) fun inRange => inRange.2.2 signs
      · rw [if_neg signs]
        exact iff_of_true ⟨_, rfl⟩ ⟨seconds, nanos, signs⟩

private theorem totalNanos_eq_ok_iff_inRange {d : DurationLiteral} {n : Int} :
    d.totalNanos = .ok n ↔ d.InRange ∧ n = d.nanoseconds := by
  rw [totalNanos_eq_ok_iff, valid_iff_inRange]

theorem parts_lt_iff {d e : DurationLiteral} (dInRange : d.InRange) (eInRange : e.InRange) :
    d.parts < e.parts ↔ d.nanoseconds < e.nanoseconds := by
  obtain ⟨-, dNanos, dSigns⟩ := dInRange
  obtain ⟨-, eNanos, eSigns⟩ := eInRange
  rw [parts, parts, orderedParts, orderedParts, Prod.Lex.toLex_lt_toLex]
  simp only [nanoseconds, nanosPerSecond] at *
  omega

/-- A number cut towards zero leaves a rest of its own sign. -/
theorem exists_nanoseconds_eq {n : Int}
    (lo : -(maxDurationSeconds * nanosPerSecond + 999999999) ≤ n)
    (hi : n ≤ maxDurationSeconds * nanosPerSecond + 999999999) :
    ∃ d : DurationLiteral, d.InRange ∧ d.nanoseconds = n := by
  simp only [maxDurationSeconds, nanosPerSecond] at lo hi
  obtain ⟨seconds, nanos, whole, rest, signs⟩ : ∃ s r : Int, s * 1000000000 + r = n ∧
      (-1000000000 < r ∧ r < 1000000000) ∧ ((0 ≤ s ∧ 0 ≤ r) ∨ (s ≤ 0 ∧ r ≤ 0)) := by
    rcases Int.le_total 0 n with positive | negative
    · exact ⟨n / 1000000000, n % 1000000000, by omega⟩
    · exact ⟨-(-n / 1000000000), -(-n % 1000000000), by omega⟩
  obtain ⟨a, b, rfl, rfl⟩ := exists_words (s := seconds) (n := nanos)
    (by simp only [maxDurationSeconds]; omega) rest
  refine ⟨⟨a, b⟩, ⟨?_, rest, ?_⟩, whole⟩
  · simp only [maxDurationSeconds]
    omega
  · simp only
    omega

private theorem totalNanos_flattensOnto :
    FlattensOnto totalNanos InRange parts (-(maxDurationSeconds * nanosPerSecond + 999999999))
      (maxDurationSeconds * nanosPerSecond + 999999999) := by
  apply FlattensOnto.of_value fun _ _ => totalNanos_eq_ok_iff_inRange
  · exact parts_injective
  · exact fun _ _ => parts_lt_iff
  · rintro d ⟨seconds, nanos, -⟩
    simp only [nanoseconds, maxDurationSeconds, nanosPerSecond] at *
    omega
  · exact fun _ => exists_nanoseconds_eq

/-- The flattening with every step in words, none as soon as a result leaves its word. -/
def wordNanos? (d : DurationLiteral) : Option (Except TemporalError (Word .int128)) := do
  if (← durationLimit.magnitude?).val < (← d.seconds.magnitude?).val then
    return .error (.secondsOutOfRange d.seconds.val)
  if (← secondWord.magnitude?).val ≤ (← d.nanos.magnitude?).val then
    return .error (.nanosOutOfRange d.nanos.val)
  if (0 < d.seconds.val ∧ d.nanos.val < 0) ∨ (d.seconds.val < 0 ∧ 0 < d.nanos.val) then
    return .error .signMismatch
  return .ok (← flatten? d.seconds d.nanos)

theorem wordNanos?_eq (d : DurationLiteral) :
    d.wordNanos?.map (·.map Word.val) = some d.totalNanos := by
  obtain ⟨limit, limited, limitVal⟩ := durationLimit.exists_magnitude? (by decide)
  obtain ⟨second, constant, secondVal⟩ := secondWord.exists_magnitude? (by decide)
  obtain ⟨seconds, first, secondsVal⟩ := d.seconds.exists_magnitude? (by decide)
  obtain ⟨nanos, rest, nanosVal⟩ := d.nanos.exists_magnitude? (by decide)
  obtain ⟨w, flat, wVal⟩ := exists_flatten? d.seconds d.nanos
  have limitExact : (limit.val : Int) = maxDurationSeconds := limitVal
  have secondExact : (second.val : Int) = nanosPerSecond := secondVal
  simp only [wordNanos?, limited, constant, first, rest, flat, totalNanos, limitExact, secondExact,
    secondsVal, nanosVal, Option.bind_eq_bind, Option.bind_some, Option.pure_def]
  rw [← wVal]
  split_ifs <;> rfl

end DurationLiteral

namespace TimestampLiteral

structure InRange (t : TimestampLiteral) : Prop where
  seconds : minTimestampSeconds ≤ t.seconds.val ∧ t.seconds.val ≤ maxTimestampSeconds
  nanos : 0 ≤ t.nanos.val ∧ t.nanos.val < nanosPerSecond

def parts (t : TimestampLiteral) : Int ×ₗ Int :=
  orderedParts t.seconds t.nanos

theorem parts_injective : parts.Injective := by
  intro t u same
  obtain ⟨seconds, nanos⟩ := orderedParts_inj.mp same
  cases t
  cases u
  rw [mk.injEq]
  exact ⟨seconds, nanos⟩

theorem valid_iff_inRange {t : TimestampLiteral} : t.Valid ↔ t.InRange := by
  have conditions : t.InRange ↔
      ¬ (t.seconds.val < minTimestampSeconds ∨ maxTimestampSeconds < t.seconds.val) ∧
        ¬ (t.nanos.val < 0 ∨ nanosPerSecond ≤ t.nanos.val) := by
    simp only [not_or, not_lt, not_le]
    exact ⟨fun ⟨seconds, nanos⟩ => ⟨seconds, nanos⟩, fun ⟨seconds, nanos⟩ => ⟨seconds, nanos⟩⟩
  rw [conditions, Valid, unixNanos]
  by_cases seconds : t.seconds.val < minTimestampSeconds ∨ maxTimestampSeconds < t.seconds.val
  · rw [if_pos seconds]
    exact iff_of_false (fun ⟨_, read⟩ => nomatch read) fun inRange => inRange.1 seconds
  · rw [if_neg seconds]
    by_cases nanos : t.nanos.val < 0 ∨ nanosPerSecond ≤ t.nanos.val
    · rw [if_pos nanos]
      exact iff_of_false (fun ⟨_, read⟩ => nomatch read) fun inRange => inRange.2 nanos
    · rw [if_neg nanos]
      exact iff_of_true ⟨_, rfl⟩ ⟨seconds, nanos⟩

private theorem unixNanos_eq_ok_iff_inRange {t : TimestampLiteral} {n : Int} :
    t.unixNanos = .ok n ↔ t.InRange ∧ n = t.nanoseconds := by
  rw [unixNanos_eq_ok_iff, valid_iff_inRange]

theorem parts_lt_iff {t u : TimestampLiteral} (tInRange : t.InRange) (uInRange : u.InRange) :
    t.parts < u.parts ↔ t.nanoseconds < u.nanoseconds := by
  obtain ⟨-, tNanos⟩ := tInRange
  obtain ⟨-, uNanos⟩ := uInRange
  rw [parts, parts, orderedParts, orderedParts, Prod.Lex.toLex_lt_toLex]
  simp only [nanoseconds, nanosPerSecond] at *
  omega

/-- A number cut towards the past leaves a rest that counts upwards. -/
theorem exists_nanoseconds_eq {n : Int} (lo : minTimestampSeconds * nanosPerSecond ≤ n)
    (hi : n ≤ maxTimestampSeconds * nanosPerSecond + 999999999) :
    ∃ t : TimestampLiteral, t.InRange ∧ t.nanoseconds = n := by
  simp only [minTimestampSeconds, maxTimestampSeconds, nanosPerSecond] at lo hi
  obtain ⟨a, b, seconds, nanos⟩ := exists_words (s := n / 1000000000) (n := n % 1000000000)
    (by simp only [maxDurationSeconds]; omega) (by simp only [nanosPerSecond]; omega)
  refine ⟨⟨a, b⟩, ⟨?_, ?_⟩, ?_⟩
  · simp only [minTimestampSeconds, maxTimestampSeconds]
    omega
  · simp only [nanosPerSecond]
    omega
  · simp only [nanoseconds, nanosPerSecond]
    omega

private theorem unixNanos_flattensOnto :
    FlattensOnto unixNanos InRange parts (minTimestampSeconds * nanosPerSecond)
      (maxTimestampSeconds * nanosPerSecond + 999999999) := by
  apply FlattensOnto.of_value fun _ _ => unixNanos_eq_ok_iff_inRange
  · exact parts_injective
  · exact fun _ _ => parts_lt_iff
  · rintro t ⟨seconds, nanos⟩
    simp only [nanoseconds, minTimestampSeconds, maxTimestampSeconds, nanosPerSecond] at *
    omega
  · exact fun _ => exists_nanoseconds_eq

def wordNanos? (t : TimestampLiteral) : Option (Except TemporalError (Word .int128)) := do
  if t.seconds.val < minTimestampSeconds ∨ maxTimestampSeconds < t.seconds.val then
    return .error (.secondsOutOfRange t.seconds.val)
  if t.nanos.val < 0 ∨ nanosPerSecond ≤ t.nanos.val then
    return .error (.nanosOutOfRange t.nanos.val)
  return .ok (← flatten? t.seconds t.nanos)

theorem wordNanos?_eq (t : TimestampLiteral) :
    t.wordNanos?.map (·.map Word.val) = some t.unixNanos := by
  obtain ⟨w, flat, wVal⟩ := exists_flatten? t.seconds t.nanos
  simp only [wordNanos?, flat, unixNanos, Option.bind_eq_bind, Option.bind_some, Option.pure_def]
  rw [← wVal]
  split_ifs <;> rfl

end TimestampLiteral

/-- Literals stand for the whole numbers of nanoseconds within reach, one for each and in the same
order, and all others are refused. With a check for overflow at every step the outcome is the same
for every literal, so that none overflows. -/
theorem literals_flatten_onto :
    FlattensOnto DurationLiteral.totalNanos DurationLiteral.InRange DurationLiteral.parts
        (-(maxDurationSeconds * nanosPerSecond + 999999999))
        (maxDurationSeconds * nanosPerSecond + 999999999) ∧
      FlattensOnto TimestampLiteral.unixNanos TimestampLiteral.InRange TimestampLiteral.parts
        (minTimestampSeconds * nanosPerSecond)
        (maxTimestampSeconds * nanosPerSecond + 999999999) ∧
      (∀ d : DurationLiteral, d.wordNanos?.map (·.map Word.val) = some d.totalNanos) ∧
      ∀ t : TimestampLiteral, t.wordNanos?.map (·.map Word.val) = some t.unixNanos :=
  ⟨DurationLiteral.totalNanos_flattensOnto, TimestampLiteral.unixNanos_flattensOnto,
    DurationLiteral.wordNanos?_eq, TimestampLiteral.wordNanos?_eq⟩

end ProtoRules
