import Mathlib.Data.List.Forall2
import ProtoRules.Emit.Pass
import ProtoRules.Check.Fault

/-!
Outcomes of chains of steps: when a chain succeeds, and which faults it can end in.
-/

namespace ProtoRules

variable {ε α β : Type}

theorem ok_bind (a : α) (f : α → Except ε β) : ((.ok a : Except ε α) >>= f) = f a := rfl

theorem bind_eq_ok_iff {x : Except ε α} {f : α → Except ε β} {b : β} :
    (x >>= f) = .ok b ↔ ∃ a, x = .ok a ∧ f a = .ok b := by
  cases x <;> simp [bind, Except.bind]

theorem map_eq_ok_iff {x : Except ε α} {f : α → β} {b : β} :
    f <$> x = .ok b ↔ ∃ a, x = .ok a ∧ f a = b := by
  cases x <;> simp [Functor.map, Except.map]

theorem toOption_eq_some_iff {x : Except ε α} {a : α} : x.toOption = some a ↔ x = .ok a := by
  cases x <;> simp [Except.toOption]

theorem exists_unit_iff {p : Unit → Prop} : (∃ u, p u) ↔ p () :=
  ⟨fun ⟨(), holds⟩ => holds, fun holds => ⟨(), holds⟩⟩

theorem ite_bind_eq_ok_iff {condition : Prop} [Decidable condition] {test : Except ε Unit}
    {next : Except ε β} {b : β} :
    (if condition then test >>= fun _ => next else next) = .ok b ↔
      (condition → test = .ok ()) ∧ next = .ok b := by
  split
  · simp [*, bind_eq_ok_iff, exists_unit_iff]
  · simp [*]

theorem ite_steps_eq_ok_iff {condition : Prop} [Decidable condition] {x y : Except ε α}
    {f : α → Except ε β} {b : β} :
    (if condition then x >>= f else y >>= f) = .ok b ↔
      ∃ a, (if condition then x else y) = .ok a ∧ f a = .ok b := by
  split
  · exact bind_eq_ok_iff
  · exact bind_eq_ok_iff

@[simp] theorem pure_eq_ok_iff {a b : α} : (pure a : Except ε α) = .ok b ↔ a = b := by
  simp [pure, Except.pure]

theorem discard_eq_ok_iff {x : Except ε α} : discard x = .ok () ↔ ∃ a, x = .ok a := by
  cases x <;> simp [discard, Functor.mapConst, Except.map]

theorem discard_eq_error_iff {x : Except ε α} {e : ε} :
    (discard x : Except ε Unit) = .error e ↔ x = .error e := by
  cases x <;> simp [discard, Functor.mapConst, Except.map]

theorem forM_eq_ok_iff {xs : List α} {f : α → Except ε Unit} :
    xs.forM f = .ok () ↔ ∀ x ∈ xs, f x = .ok () := by
  induction xs with
  | nil => simp
  | cons x xs ih =>
      simp only [List.forM_eq_forM, List.forM_cons] at ih ⊢
      rw [bind_eq_ok_iff, exists_unit_iff, ih]
      simp

theorem bind_eq_error_iff {x : Except ε α} {f : α → Except ε β} {e : ε} :
    (x >>= f) = .error e ↔ x = .error e ∨ ∃ a, x = .ok a ∧ f a = .error e := by
  cases x <;> simp [bind, Except.bind]

theorem forM_eq_error_iff {xs : List α} {f : α → Except ε Unit} {e : ε} :
    xs.forM f = .error e ↔ ∃ before x after, xs = before ++ x :: after ∧
      (∀ y ∈ before, f y = .ok ()) ∧ f x = .error e := by
  constructor
  · intro failed
    induction xs with
    | nil => cases failed
    | cons x xs ih =>
        rw [List.forM_eq_forM, List.forM_cons, bind_eq_error_iff, exists_unit_iff] at failed
        rcases failed with here | ⟨passed, later⟩
        · exact ⟨[], x, xs, rfl, fun _ member => absurd member List.not_mem_nil, here⟩
        · obtain ⟨before, y, after, rfl, earlier, here⟩ := ih later
          exact ⟨x :: before, y, after, rfl, List.forall_mem_cons.mpr ⟨passed, earlier⟩, here⟩
  · rintro ⟨before, x, after, rfl, earlier, here⟩
    have passed := forM_eq_ok_iff.mpr earlier
    rw [List.forM_eq_forM] at passed ⊢
    rw [List.forM_append, passed, ok_bind, List.forM_cons, here]
    rfl

theorem forM_congr {R : α → β → Prop} {f : α → Except ε Unit} {g : β → Except ε Unit} {as : List α}
    {bs : List β} (related : List.Forall₂ R as bs) (same : ∀ a b, R a b → f a = g b) :
    as.forM f = bs.forM g := by
  induction related with
  | nil => rfl
  | cons first _ ih =>
      rw [List.forM_eq_forM, List.forM_eq_forM] at ih ⊢
      rw [List.forM_cons, List.forM_cons, same _ _ first, ih]

theorem foldlM_congr {xs : List α} {f g : β → α → Except ε β}
    (same : ∀ y, ∀ x ∈ xs, f y x = g y x) (y : β) : xs.foldlM f y = xs.foldlM g y := by
  induction xs generalizing y with
  | nil => rfl
  | cons x xs ih =>
      rw [List.foldlM_cons, List.foldlM_cons, same y x List.mem_cons_self]
      exact bind_congr (ih fun y x member => same y x (List.mem_cons_of_mem _ member))

theorem foldlM_eq_error_iff {xs : List α} {f : β → α → Except ε β} {y : β} {e : ε} :
    xs.foldlM f y = .error e ↔
      ∃ before x after z, xs = before ++ x :: after ∧ before.foldlM f y = .ok z ∧
        f z x = .error e := by
  constructor
  · intro failed
    induction xs generalizing y with
    | nil => cases failed
    | cons x xs ih =>
        rw [List.foldlM_cons, bind_eq_error_iff] at failed
        rcases failed with here | ⟨z, first, later⟩
        · exact ⟨[], x, xs, y, rfl, rfl, here⟩
        · obtain ⟨before, x', after, z', rfl, passed, here⟩ := ih later
          refine ⟨x :: before, x', after, z', rfl, ?_, here⟩
          rw [List.foldlM_cons, first]
          exact passed
  · rintro ⟨before, x, after, z, rfl, passed, here⟩
    rw [List.foldlM_append, passed, ok_bind, List.foldlM_cons, here]
    rfl

@[simp] theorem Verdict.accept_eq_ok : Verdict.accept = .ok () := rfl

@[simp] theorem Verdict.reject_ne_ok {fault : CheckFault} : Verdict.reject fault ≠ .ok () :=
  nofun

theorem Verdict.within_eq_error_iff {segment : String} {v : Verdict} {e : CheckError} :
    v.within segment = .error e ↔ ∃ e', v = .error e' ∧ e = ⟨segment :: e'.path, e'.fault⟩ := by
  cases v <;> simp [within, eq_comm]

@[simp] theorem Conflict.lift_eq_ok_iff {x : Except Conflict α} {a : α} :
    Conflict.lift x = .ok a ↔ x = .ok a := by
  cases x <;> simp [Conflict.lift, CheckFault.verdict]

@[simp] theorem SchemaError.lift_eq_ok_iff {x : Except SchemaError α} {a : α} :
    SchemaError.lift x = .ok a ↔ x = .ok a := by
  cases x <;> simp [SchemaError.lift, CheckFault.verdict]

theorem SchemaError.lift_eq_error_iff {x : Except SchemaError α} {e : CheckError} :
    SchemaError.lift x = .error e ↔ ∃ e', x = .error e' ∧ e = ⟨[], .schema e'⟩ := by
  cases x <;> simp [SchemaError.lift, CheckFault.verdict, eq_comm]

@[simp] theorem SchemaError.project_eq_ok_iff {x : Except SchemaError α} {a : α} :
    SchemaError.project x = .ok a ↔ x = .ok a := by
  cases x <;> simp [SchemaError.project]

@[simp] theorem SchemaError.render_eq_ok_iff {x : Except SchemaError α} {a : α} :
    SchemaError.render x = .ok a ↔ x = .ok a := by
  cases x <;> simp [SchemaError.render]

@[simp] theorem ProjectionError.render_eq_ok_iff {x : Except ProjectionError α} {a : α} :
    ProjectionError.render x = .ok a ↔ x = .ok a := by
  cases x <;> simp [ProjectionError.render]

theorem concatM_eq_ok {f : α → Rendered (List β)} {xs : List α} {ys : List β}
    (written : concatM f xs = .ok ys) : ∀ x ∈ xs, ∃ part, f x = .ok part := by
  induction xs generalizing ys with
  | nil => exact fun _ member => absurd member List.not_mem_nil
  | cons x xs ih =>
      simp only [concatM, bind_eq_ok_iff] at written
      obtain ⟨part, first, rest, later, _⟩ := written
      exact List.forall_mem_cons.mpr ⟨⟨part, first⟩, ih later⟩

/-- Every fault that an outcome can be satisfies the predicate. -/
def FaultsWithin (P : ε → Prop) (x : Except ε α) : Prop :=
  ∀ e, x = .error e → P e

namespace FaultsWithin

variable {P : ε → Prop}

@[simp] theorem ok (a : α) : FaultsWithin P (.ok a : Except ε α) := by
  intro e failed
  cases failed

@[simp] theorem pure (a : α) : FaultsWithin P (Pure.pure a : Except ε α) :=
  ok a

theorem of_eq_ok {x : Except ε α} {a : α} (succeeded : x = .ok a) : FaultsWithin P x := by
  rw [succeeded]
  exact ok a

theorem error {e : ε} (allowed : P e) : FaultsWithin P (.error e : Except ε α) := by
  intro e' failed
  cases failed
  exact allowed

theorem isOk {x : Except ε α} (within : FaultsWithin (fun _ => False) x) : ∃ a, x = .ok a := by
  cases x with
  | error e => exact (within e rfl).elim
  | ok a => exact ⟨a, rfl⟩

theorem mono {Q : ε → Prop} {x : Except ε α} (within : FaultsWithin P x)
    (weaker : ∀ e, P e → Q e) : FaultsWithin Q x :=
  fun e failed => weaker e (within e failed)

/-- The second step need only be considered on what the first one gives. -/
theorem bind {x : Except ε α} {f : α → Except ε β} (first : FaultsWithin P x)
    (second : ∀ a, x = .ok a → FaultsWithin P (f a)) : FaultsWithin P (x >>= f) := by
  cases x with
  | error e => exact error (first e rfl)
  | ok a => exact second a rfl

theorem ite {condition : Prop} [Decidable condition] {x y : Except ε α}
    (yes : condition → FaultsWithin P x) (no : ¬ condition → FaultsWithin P y) :
    FaultsWithin P (if condition then x else y) := by
  split
  · exact yes ‹_›
  · exact no ‹_›

theorem map {x : Except ε α} {f : α → β} (within : FaultsWithin P x) :
    FaultsWithin P (x.map f) := by
  cases x with
  | error e => exact error (within e rfl)
  | ok a => exact ok (f a)

theorem discard {x : Except ε α} (within : FaultsWithin P x) :
    FaultsWithin P (discard x : Except ε Unit) := by
  cases x with
  | error e => exact error (within e rfl)
  | ok a => exact ok ()

end FaultsWithin

theorem FaultsWithin.foldlM {P : ε → Prop} {f : β → α → Except ε β} {xs : List α}
    (each : ∀ y, ∀ x ∈ xs, FaultsWithin P (f y x)) (y : β) : FaultsWithin P (xs.foldlM f y) := by
  induction xs generalizing y with
  | nil => exact pure y
  | cons x xs ih =>
      rw [List.foldlM_cons]
      refine bind (each y x List.mem_cons_self) fun next _ => ?_
      exact ih (fun y x member => each y x (List.mem_cons_of_mem _ member)) next

theorem FaultsWithin.forM {P : ε → Prop} {f : α → Except ε Unit} {xs : List α}
    (each : ∀ x ∈ xs, FaultsWithin P (f x)) : FaultsWithin P (xs.forM f) := by
  induction xs with
  | nil => exact ok ()
  | cons x xs ih =>
      rw [List.forM_eq_forM, List.forM_cons]
      refine bind (each x List.mem_cons_self) fun _ _ => ?_
      exact ih fun y member => each y (List.mem_cons_of_mem x member)

theorem FaultsWithin.concatM {P : RenderError → Prop} {f : α → Rendered (List β)} {xs : List α}
    (each : ∀ x ∈ xs, FaultsWithin P (f x)) : FaultsWithin P (concatM f xs) := by
  induction xs with
  | nil => exact ok []
  | cons x xs ih =>
      refine bind (each x List.mem_cons_self) fun first _ => ?_
      refine bind (ih fun y member => each y (List.mem_cons_of_mem x member)) fun rest _ => ?_
      exact pure (first ++ rest)

theorem FaultsWithin.concatM_zipIdx {P : RenderError → Prop} {f : α × Nat → Rendered (List β)}
    {xs : List α} (each : ∀ x ∈ xs, ∀ i < xs.length, FaultsWithin P (f (x, i))) :
    FaultsWithin P (ProtoRules.concatM f xs.zipIdx) := by
  apply FaultsWithin.concatM
  rintro ⟨x, i⟩ member
  have position := List.mk_mem_zipIdx_iff_getElem?.mp member
  exact each x (List.mem_of_getElem? position) i (List.getElem?_eq_some_iff.mp position).1

end ProtoRules
