import ProtoRules.Check.Fit
import ProtoRules.Check.Values

/-!
The consistency check. Every rule set of a file is tested against the position it is declared at
and for contradictions in itself; the first fault is reported with the route to it. Rule sets at a
single value cannot hold further positions, so the check of nested rule sets ends there.
-/

namespace ProtoRules

def checkMessageRules (shape : Shape) (typed : Option (TypedRules FieldRules)) (inject : Bool)
    (r : MessageRules) : Verdict := do
  Verdict.require shape.isEmbedded (.mismatch .notEmbedded)
  match shape.wellKnown? with
  | some .any => Verdict.reject (.wrongKind .any)
  | some .duration => Verdict.reject (.wrongKind .duration)
  | some .timestamp => Verdict.reject (.wrongKind .timestamp)
  | _ => pure ()
  if r.skip then
    Verdict.require typed.isNone (.conflict .skipWithTyped)
  if r.required then checkError r.error inject FieldRules.messageKey
  else
    match r.error with
    | some e => Verdict.require (!Text.isBlankText e.method) (.missingError .blankMethod)
    | none => pure ()

def checkMismatch (m : Option Mismatch) : Verdict :=
  match m with
  | some m => Verdict.reject (.mismatch m)
  | none => Verdict.accept

def checkPosition (shape : Shape) (rules : FieldRules) (inject : Bool)
    (typed : TypedRules FieldRules → Verdict) : Verdict := do
  match rules.message with
  | some message =>
    checkMismatch (shape.valueMismatch? .message none)
    checkMessageRules shape rules.typed inject message
  | none => pure ()
  match rules.typed with
  | some t =>
    checkMismatch (shape.mismatch? t.kind)
    typed t
  | none => pure ()

def checkValueRules (schema : Schema) (element : ElementType) (inject : Bool) :
    ValueRules → Verdict
  | .any rules => checkAny inject rules
  | .bool rules => checkError rules.error inject RuleKind.bool.keyword
  | .bytes rules => checkBytes inject rules
  | .duration rules => checkDuration inject rules
  | .enum rules => checkEnum schema (element.enumName?.getD "") inject rules
  | .numeric k rules => checkNumeric k.keyword inject rules
  | .string rules => checkString inject rules
  | .timestamp rules => checkTimestamp inject rules

def checkElement (schema : Schema) (element : ElementType) (rules : FieldRules) (inject : Bool) :
    Verdict :=
  checkPosition (.single element) rules inject fun
    | .value v => checkValueRules schema element inject v
    | _ => Verdict.accept

def RepeatedRule.declared {ρ : Type} (r : RepeatedRule ρ) : List String :=
  named "min_items" r.minItems.isSome ++ named "max_items" r.maxItems.isSome ++
    named "unique" r.unique ++ named "items" r.items.isSome

def MapRule.declared {ρ : Type} (r : MapRule ρ) : List String :=
  named "min_pairs" r.minPairs.isSome ++ named "max_pairs" r.maxPairs.isSome ++
    named "no_sparse" r.noSparse ++ named "keys" r.keys.isSome ++ named "values" r.values.isSome

/-- Tests a nested rule set, which may leave its errors to the rule that holds it. -/
def checkNested (schema : Schema) (segment : String) (element : ElementType)
    (rules : Option FieldRules) : Verdict :=
  match rules with
  | some rules => (checkElement schema element rules true).within segment
  | none => Verdict.accept

def checkRepeated (schema : Schema) (element : ElementType) (inject : Bool)
    (rules : List (RepeatedRule FieldRules)) : Verdict :=
  checkAlternatives rules fun seen r => do
    checkError r.error inject RuleKind.repeated.keyword
    let seen ← Conflict.lift (Exclusions.declareAll ⟨[], []⟩ seen r.declared)
    checkMinMax r.minItems r.maxItems "min_items" "max_items"
    if r.unique then
      Verdict.require (!element.isEmbedded) (.mismatch .uniqueMessages)
    checkNested schema "items" element r.items
    return seen

def checkMap (schema : Schema) (key value : ElementType) (inject : Bool)
    (rules : List (MapRule FieldRules)) : Verdict :=
  checkAlternatives rules fun seen r => do
    checkError r.error inject RuleKind.map.keyword
    let seen ← Conflict.lift (Exclusions.declareAll ⟨[], []⟩ seen r.declared)
    checkMinMax r.minPairs r.maxPairs "min_pairs" "max_pairs"
    if r.noSparse then
      Verdict.require value.isEmbedded (.mismatch .sparseScalars)
    checkNested schema "keys" key r.keys
    checkNested schema "values" value r.values
    return seen

/-- Tests a rule set at any position. With `inject` its errors may be left to an enclosing rule. -/
def checkRules (schema : Schema) (shape : Shape) (rules : FieldRules) (inject : Bool) : Verdict :=
  match shape with
  | .single element => checkElement schema element rules inject
  | .repeated element =>
    checkPosition shape rules inject fun
      | .repeated rs => checkRepeated schema element inject rs
      | _ => Verdict.accept
  | .map key value =>
    checkPosition shape rules inject fun
      | .map rs => checkMap schema key value inject rs
      | _ => Verdict.accept

def checkField (schema : Schema) (field : Field) : Verdict := do
  match ← SchemaError.lift field.rules with
  | some rules => checkRules schema field.shape rules false
  | none => pure ()

def checkOneof (oneof : Oneof) : Verdict := do
  match ← SchemaError.lift oneof.rules with
  | some rules =>
    match rules.error with
    | some e => Verdict.require (!Text.isBlankText e.method) (.missingError .blankMethod)
    | none => pure ()
    Verdict.require (!rules.required || rules.error.isSome) (.missingError .oneof)
  | none => pure ()

def checkDeclarations (schema : Schema) (message : Message) : Verdict := do
  if ← SchemaError.lift message.isDisabled then return
  discard (SchemaError.lift message.errorBase)
  message.fields.forM fun field => (checkField schema field).within field.name
  message.oneofs.forM fun oneof => (checkOneof oneof).within oneof.name

def checkMessage (schema : Schema) (file : File) (message : Message) : Verdict :=
  (checkDeclarations schema message).within (file.fullName message.name)

def checkFile (schema : Schema) (file : File) : Verdict :=
  file.messages.forM fun message => (checkMessage schema file message).within file.name

end ProtoRules
