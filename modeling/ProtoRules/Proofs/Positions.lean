import ProtoRules.Check.Checker
import ProtoRules.Context
import ProtoRules.Proofs.Outcome

/-!
Positions. The check and the writing of validators look at a position each in its own way; here it
is shown that rules which pass the check are resolved, and what they are resolved to.
-/

namespace ProtoRules

variable {schema : Schema} {shape : Shape} {rules : FieldRules} {inject : Bool} {field : String}

theorem checkMismatch_eq_ok_iff {m : Option Mismatch} : checkMismatch m = .ok () ↔ m = none := by
  cases m <;> simp [checkMismatch]

inductive TypedAccepted (schema : Schema) (inject : Bool) : Shape → TypedRules FieldRules → Prop
  | value {element : ElementType} {v : ValueRules}
      (accepted : checkValueRules schema element inject v = .ok ()) :
      TypedAccepted schema inject (.single element) (.value v)
  | repeated {element : ElementType} {rules : List (RepeatedRule FieldRules)}
      (accepted : checkRepeated schema element inject rules = .ok ()) :
      TypedAccepted schema inject (.repeated element) (.repeated rules)
  | map {key value : ElementType} {rules : List (MapRule FieldRules)}
      (accepted : checkMap schema key value inject rules = .ok ()) :
      TypedAccepted schema inject (.map key value) (.map rules)

namespace TypedAccepted

theorem single {v : ValueRules} (accepted : TypedAccepted schema inject shape (.value v)) :
    ∃ element, shape = .single element ∧ checkValueRules schema element inject v = .ok () := by
  cases accepted with
  | value accepted => exact ⟨_, rfl, accepted⟩

theorem list {alternatives : List (RepeatedRule FieldRules)}
    (accepted : TypedAccepted schema inject shape (.repeated alternatives)) :
    ∃ element, shape = .repeated element ∧
      checkRepeated schema element inject alternatives = .ok () := by
  cases accepted with
  | repeated accepted => exact ⟨_, rfl, accepted⟩

theorem dictionary {alternatives : List (MapRule FieldRules)}
    (accepted : TypedAccepted schema inject shape (.map alternatives)) :
    ∃ key value, shape = .map key value ∧
      checkMap schema key value inject alternatives = .ok () := by
  cases accepted with
  | map accepted => exact ⟨_, _, rfl, accepted⟩

end TypedAccepted

theorem checkPosition_eq_ok_iff {typed : TypedRules FieldRules → Verdict} :
    checkPosition shape rules inject typed = .ok () ↔
      (∀ m ∈ rules.message, shape.valueMismatch? .message none = none ∧
        checkMessageRules shape rules.typed inject m = .ok ()) ∧
      ∀ t ∈ rules.typed, shape.mismatch? t.kind = none ∧ typed t = .ok () := by
  cases message : rules.message <;> cases typed : rules.typed <;>
    simp [checkPosition, message, typed, bind_eq_ok_iff, exists_unit_iff, checkMismatch_eq_ok_iff,
      and_assoc]

theorem valueMismatch?_repeated_ne_none {element : ElementType} {expected : ValueType}
    {wrapper : Option WellKnown} :
    (Shape.repeated element).valueMismatch? expected wrapper ≠ none := by
  cases wrapper <;> simp [Shape.valueMismatch?, Shape.wellKnown?, Shape.single?, Shape.isRepeated]

theorem valueMismatch?_map_ne_none {key value : ElementType} {expected : ValueType}
    {wrapper : Option WellKnown} :
    (Shape.map key value).valueMismatch? expected wrapper ≠ none := by
  cases wrapper <;>
    simp [Shape.valueMismatch?, Shape.wellKnown?, Shape.single?, Shape.isRepeated, Shape.isMap]

private theorem single_of_mismatch?_value {v : ValueRules} (fits : shape.mismatch? v.kind = none) :
    ∃ element, shape = .single element := by
  cases shape with
  | single element => exact ⟨element, rfl⟩
  | repeated element =>
      cases v <;> first
        | exact absurd fits valueMismatch?_repeated_ne_none
        | cases fits
  | map key value =>
      cases v <;> first
        | exact absurd fits valueMismatch?_map_ne_none
        | cases fits

theorem typed_of_checkRules (accepted : checkRules schema shape rules inject = .ok ())
    {t : TypedRules FieldRules} (declared : rules.typed = some t) :
    shape.mismatch? t.kind = none ∧ TypedAccepted schema inject shape t := by
  cases shape with
  | single element =>
      obtain ⟨_, typed⟩ := checkPosition_eq_ok_iff.mp accepted
      obtain ⟨fits, tested⟩ := typed t declared
      cases t with
      | value v => exact ⟨fits, .value tested⟩
      | repeated rules => cases fits
      | map rules => cases fits
  | repeated element =>
      obtain ⟨_, typed⟩ := checkPosition_eq_ok_iff.mp accepted
      obtain ⟨fits, tested⟩ := typed t declared
      cases t with
      | value v =>
          obtain ⟨_, single⟩ := single_of_mismatch?_value fits
          cases single
      | repeated rules => exact ⟨fits, .repeated tested⟩
      | map rules => cases fits
  | map key value =>
      obtain ⟨_, typed⟩ := checkPosition_eq_ok_iff.mp accepted
      obtain ⟨fits, tested⟩ := typed t declared
      cases t with
      | value v =>
          obtain ⟨_, single⟩ := single_of_mismatch?_value fits
          cases single
      | repeated rules => cases fits
      | map rules => exact ⟨fits, .map tested⟩

/-- Rules on single values are accepted at a position that they fit, if they are accepted there as
rules of their kind. -/
theorem checkRules_value_eq_ok_iff {v : ValueRules} :
    checkRules schema shape { typed := some (.value v) } inject = .ok () ↔
      ∃ element, shape = .single element ∧ shape.mismatch? v.kind = none ∧
        checkValueRules schema element inject v = .ok () := by
  constructor
  · intro accepted
    obtain ⟨fits, typed⟩ := typed_of_checkRules accepted rfl
    obtain ⟨element, single, passed⟩ := typed.single
    exact ⟨element, single, fits, passed⟩
  · rintro ⟨element, rfl, fits, passed⟩
    rw [checkRules, checkElement, checkPosition_eq_ok_iff]
    simp only [Option.mem_def, reduceCtorEq, false_implies, implies_true, true_and,
      Option.some.injEq, forall_eq']
    exact ⟨fits, passed⟩

theorem message_of_checkRules (accepted : checkRules schema shape rules inject = .ok ())
    {m : MessageRules} (declared : rules.message = some m) :
    checkMessageRules shape rules.typed inject m = .ok () := by
  cases shape with
  | single element => exact ((checkPosition_eq_ok_iff.mp accepted).1 m declared).2
  | repeated element => exact ((checkPosition_eq_ok_iff.mp accepted).1 m declared).2
  | map key value => exact ((checkPosition_eq_ok_iff.mp accepted).1 m declared).2

theorem checkError_of_checkMessageRules {typed : Option (TypedRules FieldRules)} {m : MessageRules}
    (accepted : checkMessageRules shape typed inject m = .ok ()) (required : m.required = true) :
    checkError m.error inject FieldRules.messageKey = .ok () := by
  simp only [checkMessageRules, required, if_true, bind_eq_ok_iff, exists_unit_iff] at accepted
  obtain ⟨_, accepted⟩ := accepted
  split at accepted
  · cases accepted
  · cases accepted
  · cases accepted
  · exact (ite_bind_eq_ok_iff.mp accepted).2

theorem single_or_wrapper_of_valueMismatch? {expected : ValueType} {wrapper : Option WellKnown}
    (fits : shape.valueMismatch? expected wrapper = none) :
    (wrapper.isSome && shape.wellKnown? == wrapper) = true ∨
      (shape.single?.map ElementType.valueType == some expected) = true := by
  cases shape with
  | single element =>
      unfold Shape.valueMismatch? at fits
      split at fits
      · exact .inl ‹_›
      · refine .inr ?_
        simp only [Shape.isRepeated, Shape.isMap, Bool.false_eq_true, if_false] at fits
        split at fits
        · rename_i same
          exact beq_iff_eq.mpr (congrArg some same)
        · cases fits
  | repeated element => exact absurd fits valueMismatch?_repeated_ne_none
  | map key value => exact absurd fits valueMismatch?_map_ne_none

private theorem isWellKnown_of_wellKnownMismatch? {expected : WellKnown}
    (fits : shape.wellKnownMismatch? expected = none) :
    (shape.wellKnown? == some expected) = true := by
  simpa [Shape.wellKnownMismatch?] using fits

theorem accepts_of_mismatch? {kind : RuleKind} (fits : shape.mismatch? kind = none) :
    (kind.wrapper?.isSome && shape.wellKnown? == kind.wrapper?) = true ∨
      shape.accepts kind = true := by
  cases kind with
  | any => exact .inr (isWellKnown_of_wellKnownMismatch? fits)
  | duration => exact .inr (isWellKnown_of_wellKnownMismatch? fits)
  | timestamp => exact .inr (isWellKnown_of_wellKnownMismatch? fits)
  | repeated => exact .inr (by simpa [Shape.mismatch?, Shape.accepts] using fits)
  | map => exact .inr (by simpa [Shape.mismatch?, Shape.accepts] using fits)
  | bool => exact single_or_wrapper_of_valueMismatch? fits
  | bytes => exact single_or_wrapper_of_valueMismatch? fits
  | enum => exact single_or_wrapper_of_valueMismatch? fits
  | numeric k => exact single_or_wrapper_of_valueMismatch? fits
  | string => exact single_or_wrapper_of_valueMismatch? fits

theorem resolve_isOk (accepted : checkRules schema shape rules inject = .ok ()) :
    ∃ resolved, Context.resolve field shape rules = .ok resolved := by
  cases declared : rules.typed with
  | none => exact ⟨_, by rw [Context.resolve, declared]⟩
  | some t =>
      obtain ⟨fits, _⟩ := typed_of_checkRules accepted declared
      have applies := accepts_of_mismatch? fits
      have resolves : shape.accepts t.kind = true →
          ∃ resolved, Context.resolve field shape rules = .ok resolved := by
        intro accepts
        simp only [Context.resolve, declared, accepts, if_true]
        split
        · exact ⟨_, rfl⟩
        · exact ⟨_, rfl⟩
      cases t with
      | value v =>
          rcases applies with wrapped | accepts
          · simp only [Context.resolve, declared, wrapped]
            exact ⟨_, rfl⟩
          · exact resolves accepts
      | repeated alternatives => exact resolves (applies.resolve_left Bool.false_ne_true)
      | map alternatives => exact resolves (applies.resolve_left Bool.false_ne_true)

theorem resolve_eq_ok {resolved : ContextRules × Option MessageRules}
    (resolves : Context.resolve field shape rules = .ok resolved) :
    resolved.2 = rules.message ∧
      ((rules.typed = none ∧ resolved.1 = shape.defaultRules rules.message) ∨
        (∃ t, rules.typed = some t ∧ resolved.1 = .typed t) ∨
          ∃ v, rules.typed = some (.value v) ∧ resolved.1 = .wrapper v) := by
  cases declared : rules.typed with
  | none =>
      simp only [Context.resolve, declared, Except.ok.injEq] at resolves
      rw [← resolves]
      exact ⟨rfl, .inl ⟨rfl, rfl⟩⟩
  | some t =>
      simp only [Context.resolve, declared] at resolves
      split at resolves
      · rw [← Except.ok.inj resolves]
        exact ⟨rfl, .inr (.inr ⟨_, rfl, rfl⟩)⟩
      · split at resolves
        · rw [← Except.ok.inj resolves]
          exact ⟨rfl, .inr (.inl ⟨_, rfl, rfl⟩)⟩
        · cases resolves

/-- What holds where nothing typed is declared: collections are walked through, embedded messages
are checked, and anything else is left alone. -/
theorem defaultRules_cases (shape : Shape) (message : Option MessageRules) :
    (∃ element, shape = .repeated element ∧
      shape.defaultRules message = .typed (.repeated [])) ∨
    (∃ key value, shape = .map key value ∧
      (shape.defaultRules message = .typed (.map []) ∨ shape.defaultRules message = .none)) ∨
    ∃ element, shape = .single element ∧
      (shape.defaultRules message = .message message ∨ shape.defaultRules message = .none) := by
  cases shape with
  | repeated element => exact .inl ⟨element, rfl, rfl⟩
  | map key value =>
      refine .inr (.inl ⟨key, value, rfl, ?_⟩)
      cases value with
      | message name => exact .inl rfl
      | enum name => exact .inr rfl
      | scalar type => exact .inr rfl
  | single element =>
      refine .inr (.inr ⟨element, rfl, ?_⟩)
      cases element with
      | message name => exact .inl rfl
      | enum name => exact .inr rfl
      | scalar type => exact .inr rfl

end ProtoRules
