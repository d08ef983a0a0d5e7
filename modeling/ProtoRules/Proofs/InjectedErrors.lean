import ProtoRules.Proofs.CheckedContexts

/-!
Rules injected into a rule that has an error. Such rules may go without errors of their own, and
that is all that they may do: they get the verdict that they would get by themselves, had they an
error wherever they declare none.
-/

namespace ProtoRules

/-- The error of a rule, or the given one if it declares none. -/
def ErrorSpec.fill (e : ErrorSpec) (own : Option ErrorSpec) : Option ErrorSpec :=
  some (own.getD e)

def ValueRules.withError (e : ErrorSpec) : ValueRules → ValueRules
  | .any rules => .any (rules.map fun r => { r with error := e.fill r.error })
  | .bool rules => .bool { rules with error := e.fill rules.error }
  | .bytes rules => .bytes (rules.map fun r => { r with error := e.fill r.error })
  | .duration rules => .duration (rules.map fun r => { r with error := e.fill r.error })
  | .enum rules => .enum (rules.map fun r => { r with error := e.fill r.error })
  | .numeric k rules => .numeric k (rules.map fun r => { r with error := e.fill r.error })
  | .string rules => .string (rules.map fun r => { r with error := e.fill r.error })
  | .timestamp rules => .timestamp (rules.map fun r => { r with error := e.fill r.error })

/-- Rule sets for items, keys and values are left as they are. -/
def TypedRules.withError {ρ : Type} (e : ErrorSpec) : TypedRules ρ → TypedRules ρ
  | .value rules => .value (rules.withError e)
  | .repeated rules => .repeated (rules.map fun r => { r with error := e.fill r.error })
  | .map rules => .map (rules.map fun r => { r with error := e.fill r.error })

def MessageRules.withError (e : ErrorSpec) (m : MessageRules) : MessageRules :=
  { m with error := e.fill m.error }

def FieldRules.withError (e : ErrorSpec) (rules : FieldRules) : FieldRules where
  message := rules.message.map (MessageRules.withError e)
  typed := rules.typed.map (TypedRules.withError e)

@[simp] theorem TypedRules.kind_withError {ρ : Type} (e : ErrorSpec) (t : TypedRules ρ) :
    (t.withError e).kind = t.kind := by
  cases t with
  | value v => cases v <;> rfl
  | repeated rules => rfl
  | map rules => rfl

section Alternatives

variable {e : ErrorSpec} {schema : Schema}

private theorem checkError_fill (named : Text.isBlankText e.method = false) (own : Option ErrorSpec)
    (kind : String) : checkError (e.fill own) false kind = checkError own true kind := by
  cases own with
  | none =>
      change Verdict.require (!Text.isBlankText e.method) _ = Verdict.require true _
      rw [named]
      rfl
  | some own => rfl

/-- Two runs over alternatives come to the same if each step does. -/
private theorem foldlM_map_congr {ε σ α : Type} {g : α → α} {strict relaxed : σ → α → Except ε σ}
    (same : ∀ s r, strict s (g r) = relaxed s r) (rules : List α) (s : σ) :
    (rules.map g).foldlM strict s = rules.foldlM relaxed s := by
  rw [List.foldlM_map]
  exact foldlM_congr (fun s r _ => same s r) s

private theorem checkAlternatives_map_congr {α : Type} {g : α → α}
    {strict relaxed : List String → α → Except CheckError (List String)}
    (same : ∀ seen r, strict seen (g r) = relaxed seen r) (rules : List α) :
    checkAlternatives (rules.map g) strict = checkAlternatives rules relaxed :=
  congrArg discard (foldlM_map_congr same rules [])

variable (named : Text.isBlankText e.method = false)
include named

/-- Rules on values without errors pass as injected ones just as they pass with errors. The error is
the first thing that is tested of an alternative, and nothing after that looks at it. -/
private theorem checkValueRules_withError (element : ElementType) (v : ValueRules) :
    checkValueRules schema element false (v.withError e) =
      checkValueRules schema element true v := by
  cases v with
  | any rules =>
      refine checkAlternatives_map_congr (fun seen r => ?_) rules
      exact congrArg (· >>= _) (checkError_fill named r.error _)
  | bool rules => exact checkError_fill named rules.error _
  | bytes rules =>
      refine checkAlternatives_map_congr (fun seen r => ?_) rules
      exact congrArg (· >>= _) (checkError_fill named r.error _)
  | duration rules =>
      refine congrArg (· >>= _) (foldlM_map_congr (fun tally r => ?_) rules _)
      exact congrArg (· >>= _) (checkError_fill named r.error _)
  | enum rules =>
      refine checkAlternatives_map_congr (fun seen r => ?_) rules
      exact congrArg (· >>= _) (checkError_fill named r.error _)
  | numeric k rules =>
      refine congrArg (· >>= _) (foldlM_map_congr (fun tally r => ?_) rules _)
      exact congrArg (· >>= _) (checkError_fill named r.error _)
  | string rules =>
      refine checkAlternatives_map_congr (fun seen r => ?_) rules
      exact congrArg (· >>= _) (checkError_fill named r.error _)
  | timestamp rules =>
      refine congrArg (· >>= _) (foldlM_map_congr (fun tally r => ?_) rules _)
      exact congrArg (· >>= _) (checkError_fill named r.error _)

private theorem checkRepeated_withError (element : ElementType)
    (rules : List (RepeatedRule FieldRules)) :
    checkRepeated schema element false (rules.map fun r => { r with error := e.fill r.error }) =
      checkRepeated schema element true rules := by
  refine checkAlternatives_map_congr (fun seen r => ?_) rules
  exact congrArg (· >>= _) (checkError_fill named r.error _)

private theorem checkMap_withError (key value : ElementType) (rules : List (MapRule FieldRules)) :
    checkMap schema key value false (rules.map fun r => { r with error := e.fill r.error }) =
      checkMap schema key value true rules := by
  refine checkAlternatives_map_congr (fun seen r => ?_) rules
  exact congrArg (· >>= _) (checkError_fill named r.error _)

/-- The error of message rules need only be declared where they are required; elsewhere the given
one does no harm. -/
private theorem checkMessageRules_withError (shape : Shape) (typed : Option (TypedRules FieldRules))
    (m : MessageRules) :
    checkMessageRules shape (typed.map (TypedRules.withError e)) false (m.withError e) =
      checkMessageRules shape typed true m := by
  obtain ⟨skip, required, own⟩ := m
  simp only [checkMessageRules, MessageRules.withError, Option.isNone_map]
  cases required with
  | true => simp only [checkError_fill named, if_true]
  | false =>
      cases own with
      | none =>
          have passes (fault : CheckFault) :
              Verdict.require (!Text.isBlankText e.method) fault = pure () := by
            rw [named]
            rfl
          simp only [ErrorSpec.fill, Option.getD_none, passes, Bool.false_eq_true, if_false]
      | some own => rfl

private theorem checkPosition_withError {shape : Shape}
    {strict relaxed : TypedRules FieldRules → Verdict}
    (same : ∀ t, strict (t.withError e) = relaxed t) (rules : FieldRules) :
    checkPosition shape (rules.withError e) false strict =
      checkPosition shape rules true relaxed := by
  obtain ⟨message, typed⟩ := rules
  have tested (m : MessageRules) := checkMessageRules_withError named shape typed m
  cases message with
  | none =>
      cases typed with
      | none => rfl
      | some t =>
          simp only [checkPosition, FieldRules.withError, Option.map_none, Option.map_some,
            TypedRules.kind_withError, same]
  | some m =>
      cases typed with
      | none =>
          simp only [checkPosition, FieldRules.withError, Option.map_none, Option.map_some,
            ← tested]
      | some t =>
          simp only [checkPosition, FieldRules.withError, Option.map_some,
            TypedRules.kind_withError, same, ← tested]

private theorem checkRules_withError (shape : Shape) (rules : FieldRules) :
    checkRules schema shape (rules.withError e) false = checkRules schema shape rules true := by
  cases shape with
  | single element =>
      refine checkPosition_withError named (fun t => ?_) rules
      cases t with
      | value v => exact checkValueRules_withError named element v
      | repeated rules => rfl
      | map rules => rfl
  | repeated element =>
      refine checkPosition_withError named (fun t => ?_) rules
      cases t with
      | value v => rfl
      | repeated rules => exact checkRepeated_withError named element rules
      | map rules => rfl
  | map key value =>
      refine checkPosition_withError named (fun t => ?_) rules
      cases t with
      | value v => rfl
      | repeated rules => rfl
      | map rules => exact checkMap_withError named key value rules

end Alternatives

section Relaxed

variable {schema : Schema} {inject : Bool}

private theorem checkError_relaxed {own : Option ErrorSpec} {kind : String}
    (answered : checkError own inject kind = .ok ()) : checkError own true kind = .ok () := by
  rcases checkError_eq_ok_iff.mp answered with declared | ⟨missing, _⟩
  · exact checkError_eq_ok_iff.mpr (.inl declared)
  · exact checkError_eq_ok_iff.mpr (.inr ⟨missing, rfl⟩)

private theorem checkValueRules_relaxed {element : ElementType} {v : ValueRules}
    (accepted : checkValueRules schema element inject v = .ok ()) :
    checkValueRules schema element true v = .ok () := by
  cases v with
  | any rules =>
      obtain ⟨tested, rest⟩ := checkAny_eq_ok_iff.mp accepted
      exact checkAny_eq_ok_iff.mpr
        ⟨fun r member => (tested r member).imp_left checkError_relaxed, rest⟩
  | bool rules => exact checkError_relaxed accepted
  | bytes rules =>
      obtain ⟨tested, rest⟩ := checkBytes_eq_ok_iff.mp accepted
      exact checkBytes_eq_ok_iff.mpr
        ⟨fun r member => (tested r member).imp_left checkError_relaxed, rest⟩
  | duration rules =>
      obtain ⟨tested, rest⟩ := checkDuration_eq_ok_iff.mp accepted
      exact checkDuration_eq_ok_iff.mpr
        ⟨fun r member => (tested r member).imp_left checkError_relaxed, rest⟩
  | enum rules =>
      obtain ⟨tested, rest⟩ := checkEnum_eq_ok_iff.mp accepted
      exact checkEnum_eq_ok_iff.mpr
        ⟨fun r member => (tested r member).imp_left checkError_relaxed, rest⟩
  | numeric k rules =>
      obtain ⟨tested, rest⟩ := checkNumeric_eq_ok_iff.mp accepted
      exact checkNumeric_eq_ok_iff.mpr
        ⟨fun r member => (tested r member).imp_left checkError_relaxed, rest⟩
  | string rules =>
      obtain ⟨tested, rest⟩ := checkString_eq_ok_iff.mp accepted
      exact checkString_eq_ok_iff.mpr
        ⟨fun r member => (tested r member).imp_left checkError_relaxed, rest⟩
  | timestamp rules =>
      obtain ⟨tested, rest⟩ := checkTimestamp_eq_ok_iff.mp accepted
      exact checkTimestamp_eq_ok_iff.mpr
        ⟨fun r member => (tested r member).imp_left checkError_relaxed, rest⟩

private theorem checkMessageRules_relaxed {shape : Shape} {typed : Option (TypedRules FieldRules)}
    {m : MessageRules} (accepted : checkMessageRules shape typed inject m = .ok ()) :
    checkMessageRules shape typed true m = .ok () := by
  cases required : m.required with
  | false =>
      simp only [checkMessageRules, required] at accepted ⊢
      exact accepted
  | true =>
      have answered := checkError_of_checkMessageRules accepted required
      simp only [checkMessageRules, required, if_true, answered,
        checkError_relaxed answered] at accepted ⊢
      exact accepted

private theorem checkPosition_relaxed {shape : Shape} {rules : FieldRules}
    {strict relaxed : TypedRules FieldRules → Verdict}
    (weaker : ∀ t, strict t = .ok () → relaxed t = .ok ())
    (accepted : checkPosition shape rules inject strict = .ok ()) :
    checkPosition shape rules true relaxed = .ok () := by
  obtain ⟨message, typed⟩ := checkPosition_eq_ok_iff.mp accepted
  refine checkPosition_eq_ok_iff.mpr ⟨fun m declared => ?_, fun t declared => ?_⟩
  · exact (message m declared).imp_right checkMessageRules_relaxed
  · exact (typed t declared).imp_right (weaker t)

private theorem checkRules_relaxed {shape : Shape} {rules : FieldRules}
    (accepted : checkRules schema shape rules inject = .ok ()) :
    checkRules schema shape rules true = .ok () := by
  cases shape with
  | single element =>
      refine checkPosition_relaxed (fun t tested => ?_) accepted
      cases t with
      | value v => exact checkValueRules_relaxed tested
      | repeated rules => rfl
      | map rules => rfl
  | repeated element =>
      refine checkPosition_relaxed (fun t tested => ?_) accepted
      cases t with
      | value v => rfl
      | repeated rules =>
          obtain ⟨tested, rest⟩ := checkRepeated_eq_ok_iff.mp tested
          exact checkRepeated_eq_ok_iff.mpr
            ⟨fun r member => (tested r member).imp_left checkError_relaxed, rest⟩
      | map rules => rfl
  | map key value =>
      refine checkPosition_relaxed (fun t tested => ?_) accepted
      cases t with
      | value v => rfl
      | repeated rules => rfl
      | map rules =>
          obtain ⟨tested, rest⟩ := checkMap_eq_ok_iff.mp tested
          exact checkMap_eq_ok_iff.mpr
            ⟨fun r member => (tested r member).imp_left checkError_relaxed, rest⟩

end Relaxed

/-- Injection relaxes the demand for errors and nothing else. Injected rules are accepted if and
only if they are accepted by themselves with any error put where they lack one; what is refused is
refused for the same fault at the same place; and what is accepted by itself may be injected. -/
theorem injection_only_lends_errors {e : ErrorSpec} (named : Text.isBlankText e.method = false)
    (schema : Schema) (shape : Shape) (rules : FieldRules) :
    (checkRules schema shape rules true = .ok () ↔
      checkRules schema shape (rules.withError e) false = .ok ()) ∧
    checkRules schema shape (rules.withError e) false = checkRules schema shape rules true ∧
    (checkRules schema shape rules false = .ok () →
      checkRules schema shape rules true = .ok ()) := by
  have same : checkRules schema shape (rules.withError e) false =
      checkRules schema shape rules true := checkRules_withError named shape rules
  exact ⟨by rw [same], same, checkRules_relaxed⟩

/-- Rules on a list of names that leave all but one of their errors to an enclosing rule. -/
def nicknames : FieldRules where
  typed := some (.repeated [
    { minItems := Word.ofInt? .uint64 1, error := some { method := "none" } },
    { unique := true
      items := some { typed := some (.value (.string [
        { minLen := Word.ofInt? .uint64 2 },
        { denied := ["root"], error := some { method := "reserved" } }])) } }])

theorem nicknames_injected :
    Text.isBlankText "bad" = false ∧
    checkRules (Schema.ofFiles []) (.repeated (.scalar .string)) nicknames true = .ok () ∧
    checkRules (Schema.ofFiles []) (.repeated (.scalar .string)) nicknames false =
      .error ⟨[], .missingError (.undeclared "repeated")⟩ ∧
    checkRules (Schema.ofFiles []) (.repeated (.scalar .string))
      (nicknames.withError { method := "bad" }) false = .ok () := by
  have named : Text.isBlankText "bad" = false := by decide
  have injected : checkRules (Schema.ofFiles []) (.repeated (.scalar .string)) nicknames true =
      .ok () := rfl
  obtain ⟨filled, _⟩ := injection_only_lends_errors (e := { method := "bad" }) named
    (Schema.ofFiles []) (.repeated (.scalar .string)) nicknames
  exact ⟨named, injected, rfl, filled.mp injected⟩

end ProtoRules
