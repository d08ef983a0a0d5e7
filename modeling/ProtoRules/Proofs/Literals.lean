import ProtoRules.Check.Values
import ProtoRules.Proofs.Outcome

/-!
Literals of durations and of points in time. A valid literal stands for a number of nanoseconds, and
bounds over valid literals are read as bounds over those numbers.
-/

namespace ProtoRules

variable {α β ε : Type}

namespace DurationLiteral

def Valid (d : DurationLiteral) : Prop :=
  ∃ n, d.totalNanos = .ok n

def nanoseconds (d : DurationLiteral) : Int :=
  d.seconds.val * nanosPerSecond + d.nanos.val

theorem totalNanos_eq_ok_iff {d : DurationLiteral} {n : Int} :
    d.totalNanos = .ok n ↔ d.Valid ∧ n = d.nanoseconds := by
  have unique : ∀ n, d.totalNanos = .ok n → n = d.nanoseconds := by
    intro n read
    unfold totalNanos at read
    grind [nanoseconds]
  constructor
  · intro read
    exact ⟨⟨n, read⟩, unique n read⟩
  · rintro ⟨⟨m, read⟩, rfl⟩
    rw [read, unique m read]

theorem check_eq_ok_iff {rule : String} {d : DurationLiteral} {n : Int} :
    d.check rule = .ok n ↔ d.Valid ∧ n = d.nanoseconds := by
  rw [← totalNanos_eq_ok_iff, check]
  split
  · simp [*]
  · simp [*, CheckFault.verdict]

end DurationLiteral

namespace TimestampLiteral

def Valid (t : TimestampLiteral) : Prop :=
  ∃ n, t.unixNanos = .ok n

def nanoseconds (t : TimestampLiteral) : Int :=
  t.seconds.val * nanosPerSecond + t.nanos.val

theorem unixNanos_eq_ok_iff {t : TimestampLiteral} {n : Int} :
    t.unixNanos = .ok n ↔ t.Valid ∧ n = t.nanoseconds := by
  have unique : ∀ n, t.unixNanos = .ok n → n = t.nanoseconds := by
    intro n read
    unfold unixNanos at read
    grind [nanoseconds]
  constructor
  · intro read
    exact ⟨⟨n, read⟩, unique n read⟩
  · rintro ⟨⟨m, read⟩, rfl⟩
    rw [read, unique m read]

theorem check_eq_ok_iff {rule : String} {t : TimestampLiteral} {n : Int} :
    t.check rule = .ok n ↔ t.Valid ∧ n = t.nanoseconds := by
  rw [← unixNanos_eq_ok_iff, check]
  split
  · simp [*]
  · simp [*, CheckFault.verdict]

end TimestampLiteral

namespace Bounds

def map (f : α → β) (b : Bounds α) : Bounds β where
  const := b.const.map f
  lt := b.lt.map f
  lte := b.lte.map f
  gt := b.gt.map f
  gte := b.gte.map f

def values (b : Bounds α) : List α :=
  b.const.toList ++ b.lt.toList ++ b.lte.toList ++ b.gt.toList ++ b.gte.toList

@[simp] theorem map_declared (f : α → β) (b : Bounds α) : (b.map f).declared = b.declared := by
  simp only [declared, map, Option.isSome_map]

theorem mapM_eq_ok_iff {f : String → α → Except ε β} {Valid : α → Prop} {value : α → β}
    (reads : ∀ name a b, f name a = .ok b ↔ Valid a ∧ b = value a) {b : Bounds α} {c : Bounds β} :
    b.mapM f = .ok c ↔ (∀ a ∈ b.values, Valid a) ∧ c = b.map value := by
  have optional : ∀ name (a : Option α) (b : Option β), a.mapM (f name) = .ok b ↔
      (∀ x ∈ a.toList, Valid x) ∧ b = a.map value := by
    intro name a b
    cases a with
    | none =>
        rw [Option.mapM_none, pure_eq_ok_iff, Option.toList_none, Option.map_none]
        simp [eq_comm]
    | some x =>
        rw [Option.mapM_some, map_eq_ok_iff, Option.toList_some, Option.map_some,
          List.forall_mem_singleton]
        simp only [reads, and_assoc, exists_and_left, exists_eq_left, eq_comm]
  simp only [mapM, values, map, bind_eq_ok_iff, optional, pure_eq_ok_iff, List.forall_mem_append]
  constructor
  · rintro ⟨_, ⟨const, rfl⟩, _, ⟨lt, rfl⟩, _, ⟨lte, rfl⟩, _, ⟨gt, rfl⟩, _, ⟨gte, rfl⟩, rfl⟩
    exact ⟨⟨⟨⟨⟨const, lt⟩, lte⟩, gt⟩, gte⟩, rfl⟩
  · rintro ⟨⟨⟨⟨⟨const, lt⟩, lte⟩, gt⟩, gte⟩, rfl⟩
    exact ⟨_, ⟨const, rfl⟩, _, ⟨lt, rfl⟩, _, ⟨lte, rfl⟩, _, ⟨gt, rfl⟩, _, ⟨gte, rfl⟩, rfl⟩

end Bounds

theorem DurationLiteral.mapM_check_eq_ok_iff {b : Bounds DurationLiteral} {c : Bounds Int} :
    b.mapM DurationLiteral.check = .ok c ↔
      (∀ d ∈ b.values, d.Valid) ∧ c = b.map DurationLiteral.nanoseconds := by
  apply Bounds.mapM_eq_ok_iff
  intro name d n
  exact check_eq_ok_iff

theorem TimestampLiteral.mapM_check_eq_ok_iff {b : Bounds TimestampLiteral} {c : Bounds Int} :
    b.mapM TimestampLiteral.check = .ok c ↔
      (∀ t ∈ b.values, t.Valid) ∧ c = b.map TimestampLiteral.nanoseconds := by
  apply Bounds.mapM_eq_ok_iff
  intro name t n
  exact check_eq_ok_iff

end ProtoRules
