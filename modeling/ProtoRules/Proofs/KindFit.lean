import ProtoRules.Proofs.Positions

/-!
Which kinds fit which positions. The check refuses a kind for what speaks against it, the projection
takes it for what speaks in its favour; both come to the same answer for every shape and every kind.
-/

namespace ProtoRules

variable {shape : Shape} {kind : RuleKind} {rules : FieldRules} {typed : TypedRules FieldRules}

namespace Shape

/-- Whether the position is a single message that wraps the value of a kind. -/
def Wraps (shape : Shape) (kind : RuleKind) : Prop :=
  ∃ element wrapper, shape = .single element ∧ element.wellKnown? = some wrapper ∧
    kind.wrapper? = some wrapper

theorem wraps_iff :
    shape.Wraps kind ↔ (kind.wrapper?.isSome && shape.wellKnown? == kind.wrapper?) = true := by
  rw [Bool.and_eq_true, beq_iff_eq]
  constructor
  · rintro ⟨element, wrapper, rfl, wellKnown, wraps⟩
    exact ⟨by rw [wraps]; rfl, wellKnown.trans wraps.symm⟩
  · rintro ⟨wrapped, same⟩
    obtain ⟨wrapper, wraps⟩ := Option.isSome_iff_exists.mp wrapped
    obtain ⟨element, single, wellKnown⟩ := Option.bind_eq_some_iff.mp (same.trans wraps)
    cases shape with
    | single e =>
        cases single
        exact ⟨element, wrapper, rfl, wellKnown, wraps⟩
    | repeated e => cases single
    | map k v => cases single

theorem valueMismatch?_eq_none_iff {expected : ValueType} {wrapper : Option WellKnown} :
    shape.valueMismatch? expected wrapper = none ↔
      (wrapper.isSome && shape.wellKnown? == wrapper) = true ∨
        (shape.single?.map ElementType.valueType == some expected) = true := by
  refine ⟨single_or_wrapper_of_valueMismatch?, ?_⟩
  rintro (wrapped | same)
  · rw [valueMismatch?, if_pos wrapped]
  · obtain ⟨element, single, type⟩ := Option.map_eq_some_iff.mp (beq_iff_eq.mp same)
    cases shape with
    | single e =>
        cases single
        simp [valueMismatch?, isRepeated, isMap, valueType, type]
    | repeated e => cases single
    | map k v => cases single

/-- What the check finds no fault with is what the projection takes, unwrapped or as it stands. -/
theorem mismatch?_eq_none_iff :
    shape.mismatch? kind = none ↔ shape.Wraps kind ∨ shape.accepts kind = true := by
  rw [wraps_iff]
  refine ⟨accepts_of_mismatch?, ?_⟩
  cases kind with
  | any => simp [mismatch?, wellKnownMismatch?, accepts, RuleKind.wrapper?]
  | duration => simp [mismatch?, wellKnownMismatch?, accepts, RuleKind.wrapper?]
  | timestamp => simp [mismatch?, wellKnownMismatch?, accepts, RuleKind.wrapper?]
  | repeated => simp [mismatch?, accepts, RuleKind.wrapper?]
  | map => simp [mismatch?, accepts, RuleKind.wrapper?]
  | bool => exact valueMismatch?_eq_none_iff.mpr
  | bytes => exact valueMismatch?_eq_none_iff.mpr
  | enum => exact valueMismatch?_eq_none_iff.mpr
  | numeric k => exact valueMismatch?_eq_none_iff.mpr
  | string => exact valueMismatch?_eq_none_iff.mpr

end Shape

/-- A kind that does not fit is refused before its rules are looked at. -/
private theorem checkRules_of_mismatch {m : Mismatch} (unfit : shape.mismatch? typed.kind = some m)
    (schema : Schema) (inject : Bool) :
    checkRules schema shape { typed := some typed } inject = .error ⟨[], .mismatch m⟩ := by
  cases shape <;> simp only [checkRules, checkElement, checkPosition, unfit] <;> rfl

namespace Context

variable (field : String)

private theorem resolve_of_wraps (declared : rules.typed = some typed)
    (wraps : shape.Wraps typed.kind) :
    ∃ v, typed = .value v ∧ resolve field shape rules = .ok (.wrapper v, rules.message) := by
  have test := Shape.wraps_iff.mp wraps
  cases typed with
  | value v =>
      refine ⟨v, rfl, ?_⟩
      simp only [resolve, declared, test]
  | repeated rules => cases test
  | map rules => cases test

private theorem resolve_of_accepts (declared : rules.typed = some typed)
    (bare : ¬ shape.Wraps typed.kind) (accepts : shape.accepts typed.kind = true) :
    resolve field shape rules = .ok (.typed typed, rules.message) := by
  have test := Bool.eq_false_iff.mpr (mt Shape.wraps_iff.mpr bare)
  simp only [resolve, declared, test, accepts, if_true]

private theorem resolve_of_unfit (declared : rules.typed = some typed)
    (bare : ¬ shape.Wraps typed.kind) (refused : shape.accepts typed.kind = false) :
    resolve field shape rules = .error (.unresolvable field typed.kind) := by
  have test := Bool.eq_false_iff.mpr (mt Shape.wraps_iff.mpr bare)
  simp only [resolve, declared, test, refused, Bool.false_eq_true, if_false]

/-- Every rule set is resolved to what its position takes it for, or its kind does not fit there. -/
theorem resolve_cases (shape : Shape) (declared : rules.typed = some typed) :
    (shape.Wraps typed.kind ∧ ∃ v, typed = .value v ∧
      resolve field shape rules = .ok (.wrapper v, rules.message)) ∨
    (¬ shape.Wraps typed.kind ∧ shape.accepts typed.kind = true ∧
      resolve field shape rules = .ok (.typed typed, rules.message)) ∨
    (shape.mismatch? typed.kind ≠ none ∧
      resolve field shape rules = .error (.unresolvable field typed.kind)) := by
  by_cases wraps : shape.Wraps typed.kind
  · exact .inl ⟨wraps, resolve_of_wraps field declared wraps⟩
  · cases accepts : shape.accepts typed.kind with
    | true => exact .inr (.inl ⟨wraps, rfl, resolve_of_accepts field declared wraps accepts⟩)
    | false =>
        refine .inr (.inr ⟨?_, resolve_of_unfit field declared wraps accepts⟩)
        rw [ne_eq, Shape.mismatch?_eq_none_iff, accepts]
        exact fun fits => fits.elim wraps Bool.false_ne_true

end Context

/-- The check and the projection let the same kinds through. What fits is read as rules on a wrapped
value exactly where the position wraps a value of the kind, and what does not is refused by both. -/
theorem check_and_projection_fit_alike (field : String) (shape : Shape) {rules : FieldRules}
    {typed : TypedRules FieldRules} (declared : rules.typed = some typed) :
    (shape.mismatch? typed.kind = none ↔
      ∀ name kind, Context.resolve field shape rules ≠ .error (.unresolvable name kind)) ∧
    (shape.mismatch? typed.kind = none → ∃ read,
      Context.resolve field shape rules = .ok (read, rules.message) ∧
        (shape.Wraps typed.kind → ∃ v, typed = .value v ∧ read = .wrapper v) ∧
        (¬ shape.Wraps typed.kind → read = .typed typed)) ∧
    ∀ m, shape.mismatch? typed.kind = some m → ∀ schema inject,
      checkRules schema shape { typed := some typed } inject = .error ⟨[], .mismatch m⟩ := by
  refine ⟨?_, ?_, fun m unfit schema inject => checkRules_of_mismatch unfit schema inject⟩
  · rcases Context.resolve_cases field shape declared with
      ⟨wraps, v, _, read⟩ | ⟨_, accepts, read⟩ | ⟨unfit, refused⟩
    · refine iff_of_true (Shape.mismatch?_eq_none_iff.mpr (.inl wraps)) fun name kind => ?_
      rw [read]
      exact nofun
    · refine iff_of_true (Shape.mismatch?_eq_none_iff.mpr (.inr accepts)) fun name kind => ?_
      rw [read]
      exact nofun
    · exact iff_of_false unfit fun resolvable => resolvable field typed.kind refused
  · intro fits
    rcases Context.resolve_cases field shape declared with
      ⟨wraps, v, value, read⟩ | ⟨bare, _, read⟩ | ⟨unfit, _⟩
    · exact ⟨_, read, fun _ => ⟨v, value, rfl⟩, fun bare => absurd wraps bare⟩
    · exact ⟨_, read, fun wraps => absurd wraps bare, fun _ => rfl⟩
    · exact absurd fits unfit

/-- Rules on a counter that may be missing. -/
def nullableCount : FieldRules where
  message := some { required := true, error := some { method := "missing" } }
  typed := some (.value (.numeric .uint32
    [{ bounds := { gt := some ⟨4294967294, by decide, by decide⟩ } }]))

def countWrapper : Shape := .single (.message ".google.protobuf.UInt32Value")

private theorem countWrapper_wraps : countWrapper.Wraps (.numeric .uint32) :=
  ⟨_, .uint32Value, rfl, by decide, rfl⟩

theorem nullableCount_fits_wrapper :
    countWrapper.mismatch? (.numeric .uint32) = none ∧ ∃ v,
      nullableCount.typed = some (.value v) ∧
      Context.resolve "count" countWrapper nullableCount =
        .ok (.wrapper v, nullableCount.message) := by
  have fits : countWrapper.mismatch? (.numeric .uint32) = none :=
    Shape.mismatch?_eq_none_iff.mpr (.inl countWrapper_wraps)
  have declared : nullableCount.typed = some (.value _) := rfl
  obtain ⟨_, read, _⟩ := check_and_projection_fit_alike "count" countWrapper declared
  obtain ⟨_, resolved, unwrapped, _⟩ := read fits
  obtain ⟨v, same, rfl⟩ := unwrapped countWrapper_wraps
  exact ⟨fits, v, declared.trans (congrArg some same), resolved⟩

end ProtoRules
