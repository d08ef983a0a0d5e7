import ProtoRules.Check.Checker
import ProtoRules.Proofs.Outcome

/-!
Faults of tests that stay at one position. Whatever such a test finds, it names no further position;
only a test of fields, of oneofs or of nested rules adds to a route.
-/

namespace ProtoRules

/-- No fault that an outcome can be says where it was found. -/
abbrev Unrouted {α : Type} (x : Except CheckError α) : Prop :=
  FaultsWithin (fun e => e.path = []) x

section Verdicts

variable {α : Type} {fault : CheckFault}

private theorem Verdict.reject_unrouted : Unrouted (Verdict.reject fault) :=
  FaultsWithin.error rfl

theorem Verdict.require_unrouted {holds : Bool} : Unrouted (Verdict.require holds fault) :=
  FaultsWithin.ite (fun _ => FaultsWithin.ok ()) fun _ => Verdict.reject_unrouted

private theorem CheckFault.verdict_unrouted : Unrouted (fault.verdict : Except CheckError α) :=
  FaultsWithin.error rfl

theorem Conflict.lift_unrouted (x : Except Conflict α) : Unrouted (Conflict.lift x) := by
  cases x with
  | error c => exact CheckFault.verdict_unrouted
  | ok a => exact FaultsWithin.ok a

theorem SchemaError.lift_unrouted (x : Except SchemaError α) : Unrouted (SchemaError.lift x) := by
  cases x with
  | error e => exact CheckFault.verdict_unrouted
  | ok a => exact FaultsWithin.ok a

private theorem checkAlternatives_unrouted {rules : List α}
    {check : List String → α → Except CheckError (List String)}
    (each : ∀ seen r, Unrouted (check seen r)) : Unrouted (checkAlternatives rules check) :=
  FaultsWithin.discard (FaultsWithin.foldlM (fun seen r _ => each seen r) [])

end Verdicts

section Parts

variable {inject : Bool}

theorem checkError_unrouted {error : Option ErrorSpec} {kind : String} :
    Unrouted (checkError error inject kind) := by
  cases error with
  | none => exact Verdict.require_unrouted
  | some e => exact Verdict.require_unrouted

theorem checkMinMax_unrouted {min max : Option Length} {minName maxName : String} :
    Unrouted (checkMinMax min max minName maxName) := by
  cases min with
  | none => exact FaultsWithin.ok ()
  | some a =>
      cases max with
      | none => exact FaultsWithin.ok ()
      | some b => exact Verdict.require_unrouted

private theorem checkLen_unrouted {len min max : Option Length} {lenName minName maxName : String} :
    Unrouted (checkLen len min max lenName minName maxName) := by
  refine FaultsWithin.ite (fun _ => ?_) fun _ => FaultsWithin.ok ()
  exact FaultsWithin.bind Verdict.require_unrouted fun _ _ => Verdict.require_unrouted

private theorem checkPattern_unrouted {pattern : Option String} {allowed : Nat} :
    Unrouted (checkPattern pattern allowed) := by
  cases pattern with
  | none => exact FaultsWithin.ok ()
  | some p => exact FaultsWithin.bind Verdict.require_unrouted fun _ _ => Verdict.require_unrouted

private theorem checkAffix_unrouted {name limitName : String} {size : Nat} {limit : Option Length} :
    Unrouted (checkAffix name size limitName limit) := by
  cases limit with
  | none => exact FaultsWithin.ok ()
  | some n => exact Verdict.require_unrouted

private theorem StringRule.checkKnownPattern_unrouted (r : StringRule) :
    Unrouted r.checkKnownPattern := by
  rw [checkKnownPattern]
  split
  · exact FaultsWithin.ok ()
  · exact Verdict.require_unrouted

private theorem StringRule.checkPart_unrouted (r : StringRule) {name : String}
    {part : Option String} :
    Unrouted (r.checkPart name part) := by
  cases part with
  | none => exact FaultsWithin.ok ()
  | some s => exact FaultsWithin.bind checkAffix_unrouted fun _ _ => checkAffix_unrouted

private theorem StringRule.checkValues_unrouted (r : StringRule) : Unrouted r.checkValues := by
  have sets : Unrouted (do
      Conflict.lift (checkSets r.allowed.length r.denied.length)
      checkPattern r.effectivePattern? r.allowed.length
      r.checkPart "prefix" r.startsWith
      r.checkPart "suffix" r.endsWith
      r.checkPart "contains" r.contains) := by
    refine FaultsWithin.bind (Conflict.lift_unrouted _) fun _ _ => ?_
    refine FaultsWithin.bind checkPattern_unrouted fun _ _ => ?_
    refine FaultsWithin.bind r.checkPart_unrouted fun _ _ => ?_
    exact FaultsWithin.bind r.checkPart_unrouted fun _ _ => r.checkPart_unrouted
  refine FaultsWithin.bind checkLen_unrouted fun _ _ => ?_
  refine FaultsWithin.bind checkLen_unrouted fun _ _ => ?_
  refine FaultsWithin.bind checkMinMax_unrouted fun _ _ => ?_
  refine FaultsWithin.bind checkMinMax_unrouted fun _ _ => ?_
  split
  · exact FaultsWithin.bind Verdict.require_unrouted fun _ _ => sets
  · exact sets

private theorem BytesRule.checkValues_unrouted (r : BytesRule) : Unrouted r.checkValues := by
  refine FaultsWithin.bind checkLen_unrouted fun _ _ => ?_
  refine FaultsWithin.bind checkMinMax_unrouted fun _ _ => ?_
  refine FaultsWithin.bind (Conflict.lift_unrouted _) fun _ _ => ?_
  refine FaultsWithin.bind checkPattern_unrouted fun _ _ => ?_
  refine FaultsWithin.bind checkAffix_unrouted fun _ _ => ?_
  exact FaultsWithin.bind checkAffix_unrouted fun _ _ => checkAffix_unrouted

private theorem EnumRule.checkDefined_unrouted {schema : Schema} {enumName : String}
    (r : EnumRule) :
    Unrouted (r.checkDefined schema enumName) := by
  refine FaultsWithin.ite (fun _ => ?_) fun _ => FaultsWithin.ok ()
  refine FaultsWithin.bind (SchemaError.lift_unrouted _) fun e _ => ?_
  split
  · exact Verdict.reject_unrouted
  · exact FaultsWithin.ok ()

private theorem DurationLiteral.check_unrouted {rule : String} (d : DurationLiteral) :
    Unrouted (d.check rule) := by
  rw [check]
  split
  · exact FaultsWithin.ok _
  · exact CheckFault.verdict_unrouted

private theorem TimestampLiteral.check_unrouted {rule : String} (t : TimestampLiteral) :
    Unrouted (t.check rule) := by
  rw [check]
  split
  · exact FaultsWithin.ok _
  · exact CheckFault.verdict_unrouted

private theorem checkWithin_unrouted {within : Option DurationLiteral} :
    Unrouted (checkWithin within) := by
  cases within with
  | none => exact FaultsWithin.ok ()
  | some d => exact FaultsWithin.bind d.check_unrouted fun _ _ => Verdict.require_unrouted

private theorem Bounds.mapM_unrouted {α β : Type} {f : String → α → Except CheckError β}
    (each : ∀ name a, Unrouted (f name a)) (b : Bounds α) : Unrouted (b.mapM f) := by
  have read (name : String) (bound : Option α) : Unrouted (bound.mapM (f name)) := by
    cases bound with
    | none => exact FaultsWithin.pure none
    | some a => exact FaultsWithin.bind (each name a) fun b _ => FaultsWithin.pure (some b)
  refine FaultsWithin.bind (read "const" b.const) fun _ _ => ?_
  refine FaultsWithin.bind (read "lt" b.lt) fun _ _ => ?_
  refine FaultsWithin.bind (read "lte" b.lte) fun _ _ => ?_
  refine FaultsWithin.bind (read "gt" b.gt) fun _ _ => ?_
  exact FaultsWithin.bind (read "gte" b.gte) fun _ _ => FaultsWithin.pure _

private theorem Tally.add_unrouted {α : Type} {t : Exclusions} {tally : Tally α}
    {rules : List String} {b : Bounds α} : Unrouted (tally.add t rules b) :=
  FaultsWithin.bind (Conflict.lift_unrouted _) fun _ _ => FaultsWithin.pure _

private theorem tally_unrouted {α β : Type} [Numeral β]
    {check : Tally β → α → Except CheckError (Tally β)}
    {rules : List α} (each : ∀ tally r, Unrouted (check tally r)) :
    Unrouted (do
      let tally ← rules.foldlM check {}
      Conflict.lift (checkNums 0 0 tally.bounds)) :=
  FaultsWithin.bind (FaultsWithin.foldlM (fun tally r _ => each tally r) _) fun _ _ =>
    Conflict.lift_unrouted _

end Parts

section Values

variable {schema : Schema} {inject : Bool}

private theorem checkString_unrouted {rules : List StringRule} :
    Unrouted (checkString inject rules) := by
  refine checkAlternatives_unrouted fun seen r => ?_
  refine FaultsWithin.bind checkError_unrouted fun _ _ => ?_
  refine FaultsWithin.bind r.checkKnownPattern_unrouted fun _ _ => ?_
  refine FaultsWithin.bind (Conflict.lift_unrouted _) fun seen _ => ?_
  exact FaultsWithin.bind r.checkValues_unrouted fun _ _ => FaultsWithin.pure seen

private theorem checkBytes_unrouted {rules : List BytesRule} :
    Unrouted (checkBytes inject rules) := by
  refine checkAlternatives_unrouted fun seen r => ?_
  refine FaultsWithin.bind checkError_unrouted fun _ _ => ?_
  refine FaultsWithin.bind (Conflict.lift_unrouted _) fun seen _ => ?_
  exact FaultsWithin.bind r.checkValues_unrouted fun _ _ => FaultsWithin.pure seen

private theorem checkEnum_unrouted {enumName : String} {rules : List EnumRule} :
    Unrouted (checkEnum schema enumName inject rules) := by
  refine checkAlternatives_unrouted fun seen r => ?_
  refine FaultsWithin.bind checkError_unrouted fun _ _ => ?_
  refine FaultsWithin.bind (Conflict.lift_unrouted _) fun seen _ => ?_
  refine FaultsWithin.bind (Conflict.lift_unrouted _) fun _ _ => ?_
  exact FaultsWithin.bind r.checkDefined_unrouted fun _ _ => FaultsWithin.pure seen

private theorem checkAny_unrouted {rules : List AnyRule} : Unrouted (checkAny inject rules) := by
  refine checkAlternatives_unrouted fun seen r => ?_
  refine FaultsWithin.bind checkError_unrouted fun _ _ => ?_
  refine FaultsWithin.bind (Conflict.lift_unrouted _) fun seen _ => ?_
  exact FaultsWithin.bind (Conflict.lift_unrouted _) fun _ _ => FaultsWithin.pure seen

private theorem checkNumeric_unrouted {α : Type} [Numeral α] {kind : String}
    {rules : List (NumericRule α)} : Unrouted (checkNumeric kind inject rules) := by
  refine tally_unrouted fun tally r => ?_
  refine FaultsWithin.bind checkError_unrouted fun _ _ => ?_
  exact FaultsWithin.bind (Conflict.lift_unrouted _) fun _ _ => Tally.add_unrouted

private theorem checkDuration_unrouted {rules : List DurationRule} :
    Unrouted (checkDuration inject rules) := by
  refine tally_unrouted fun tally r => ?_
  have members {rule : String} (listed : List DurationLiteral) :
      Unrouted (listed.forM fun d => discard (d.check rule)) :=
    FaultsWithin.forM fun d _ => FaultsWithin.discard d.check_unrouted
  refine FaultsWithin.bind checkError_unrouted fun _ _ => ?_
  refine FaultsWithin.bind (Bounds.mapM_unrouted (fun _ d => d.check_unrouted) _) fun _ _ => ?_
  refine FaultsWithin.bind (members r.allowed) fun _ _ => ?_
  refine FaultsWithin.bind (members r.denied) fun _ _ => ?_
  exact FaultsWithin.bind (Conflict.lift_unrouted _) fun _ _ => Tally.add_unrouted

private theorem checkTimestamp_unrouted {rules : List TimestampRule} :
    Unrouted (checkTimestamp inject rules) := by
  refine tally_unrouted fun tally r => ?_
  refine FaultsWithin.bind checkError_unrouted fun _ _ => ?_
  refine FaultsWithin.bind (Bounds.mapM_unrouted (fun _ t => t.check_unrouted) _) fun _ _ => ?_
  refine FaultsWithin.bind checkWithin_unrouted fun _ _ => ?_
  exact FaultsWithin.bind (Conflict.lift_unrouted _) fun _ _ => Tally.add_unrouted

private theorem checkValueRules_unrouted {element : ElementType} (v : ValueRules) :
    Unrouted (checkValueRules schema element inject v) := by
  cases v with
  | any rules => exact checkAny_unrouted
  | bool rules => exact checkError_unrouted
  | bytes rules => exact checkBytes_unrouted
  | duration rules => exact checkDuration_unrouted
  | enum rules => exact checkEnum_unrouted
  | numeric k rules => exact checkNumeric_unrouted
  | string rules => exact checkString_unrouted
  | timestamp rules => exact checkTimestamp_unrouted

end Values

section Positions

variable {schema : Schema} {shape : Shape} {rules : FieldRules} {inject : Bool}

private theorem checkMessageRules_unrouted {typed : Option (TypedRules FieldRules)}
    {r : MessageRules} :
    Unrouted (checkMessageRules shape typed inject r) := by
  refine FaultsWithin.bind Verdict.require_unrouted fun _ _ => ?_
  extract_lets errors rest
  have errors_unrouted : Unrouted (errors ()) := by
    refine FaultsWithin.ite (fun _ => checkError_unrouted) fun _ => ?_
    split
    · exact Verdict.require_unrouted
    · exact FaultsWithin.ok ()
  have rest_unrouted : Unrouted (rest ()) :=
    FaultsWithin.ite
      (fun _ => FaultsWithin.bind Verdict.require_unrouted fun _ _ => errors_unrouted)
      fun _ => errors_unrouted
  generalize shape.wellKnown? = known
  cases known with
  | none => exact rest_unrouted
  | some w =>
      cases w with
      | any => exact FaultsWithin.bind Verdict.reject_unrouted fun _ _ => rest_unrouted
      | duration => exact FaultsWithin.bind Verdict.reject_unrouted fun _ _ => rest_unrouted
      | timestamp => exact FaultsWithin.bind Verdict.reject_unrouted fun _ _ => rest_unrouted
      | _ => exact rest_unrouted

theorem checkMismatch_unrouted {m : Option Mismatch} : Unrouted (checkMismatch m) := by
  cases m with
  | none => exact FaultsWithin.ok ()
  | some m => exact Verdict.reject_unrouted

private theorem checkPosition_unrouted {typed : TypedRules FieldRules → Verdict}
    (each : ∀ t ∈ rules.typed, Unrouted (typed t)) :
    Unrouted (checkPosition shape rules inject typed) := by
  unfold checkPosition
  extract_lets rest
  have rest_unrouted : Unrouted (rest ()) := by
    dsimp only [rest]
    split
    · rename_i t declared
      exact FaultsWithin.bind checkMismatch_unrouted fun _ _ => each t declared
    · exact FaultsWithin.ok ()
  split
  · refine FaultsWithin.bind checkMismatch_unrouted fun _ _ => ?_
    exact FaultsWithin.bind checkMessageRules_unrouted fun _ _ => rest_unrouted
  · exact rest_unrouted

/-- A collection inside a collection is refused as such, so nothing in it is tested. -/
theorem checkElement_unrouted {element : ElementType} :
    Unrouted (checkElement schema element rules inject) := by
  refine checkPosition_unrouted fun t _ => ?_
  split
  · exact checkValueRules_unrouted _
  · exact FaultsWithin.ok ()

theorem checkOneof_unrouted {oneof : Oneof} : Unrouted (checkOneof oneof) := by
  refine FaultsWithin.bind (SchemaError.lift_unrouted _) fun rules _ => ?_
  split
  · split
    · exact FaultsWithin.bind Verdict.require_unrouted fun _ _ => Verdict.require_unrouted
    · exact Verdict.require_unrouted
  · exact FaultsWithin.ok ()

end Positions

end ProtoRules
