import ProtoRules.Json.Record
import ProtoRules.Rules.Basic
import ProtoRules.Rules.Fault

/-!
Reading rule sets. A rule set is an object with a member for its message rules and a member for its
typed rules, named by their kind. Nested rule sets are read twice: once to report what is wrong
inside them in their own terms, once as members of the record that holds them.
-/

namespace ProtoRules

def rulesKey : String := "validate.rules"

def ErrorSpec.ofJson? (j : Json) : Option ErrorSpec := do
  let r ← Json.record? ["method", "code", "message"] true j
  return {
    method := ← r.required? "method" Json.text?
    code := ← r.optional? "code" (Json.word? .int32)
    message := ← r.optional? "message" Json.text? }

def ErrorBase.ofJson? (j : Json) : Option ErrorBase := do
  let r ← Json.record? ["class"] true j
  return { owner := ← r.required? "class" Json.text? }

def MessageRules.ofJson? (j : Json) : Option MessageRules := do
  let r ← Json.record? ["skip", "required", "error"] true j
  return {
    skip := ← r.flag? "skip"
    required := ← r.flag? "required"
    error := ← r.optional? "error" ErrorSpec.ofJson? }

def OneofRules.ofJson? (j : Json) : Option OneofRules := do
  let r ← Json.record? ["required", "error"] true j
  return {
    required := ← r.flag? "required"
    error := ← r.optional? "error" ErrorSpec.ofJson? }

def NumericRule.ofJson? (f : NumberFormat) (j : Json) : Option (NumericRule (Number f)) := do
  let r ← Json.record?
    ["const", "lt", "lte", "gt", "gte", "in", "not_in", "ignore_empty", "error"] true j
  let bounds : Bounds (Number f) := {
    const := ← r.nullable? "const" (Json.number? f)
    lt := ← r.nullable? "lt" (Json.number? f)
    lte := ← r.nullable? "lte" (Json.number? f)
    gt := ← r.nullable? "gt" (Json.number? f)
    gte := ← r.nullable? "gte" (Json.number? f) }
  return {
    bounds
    allowed := ← r.list? "in" (Json.number? f)
    denied := ← r.list? "not_in" (Json.number? f)
    ignoreEmpty := ← r.flag? "ignore_empty"
    error := ← r.optional? "error" ErrorSpec.ofJson? }

def BoolRules.ofJson? (j : Json) : Option BoolRules := do
  let r ← Json.record? ["const", "error"] true j
  return {
    const := ← r.optional? "const" Json.flag?
    error := ← r.optional? "error" ErrorSpec.ofJson? }

def KnownPattern.ofJson? (j : Json) : Option KnownPattern :=
  match Json.constant? j with
  | some "UNKNOWN" => some unknown
  | some "HTTP_HEADER_NAME" => some headerName
  | some "HTTP_HEADER_VALUE" => some headerValue
  | _ => none

def StringFormat.ofJson? (j : Json) : Option StringFormat :=
  match Json.variant? j with
  | some ("well_known_regex", some content) => (KnownPattern.ofJson? content).map pattern
  | _ =>
    match Json.constant? j with
    | some "address" => some address
    | some "email" => some email
    | some "hostname" => some hostname
    | some "ip" => some ip
    | some "ipv4" => some ipv4
    | some "ipv6" => some ipv6
    | some "uri" => some uri
    | some "uri_ref" => some uriRef
    | some "uuid" => some uuid
    | _ => none

def Length.ofJson? : Json → Option Length :=
  Json.word? .uint64

def StringRule.ofJson? (j : Json) : Option StringRule := do
  let r ← Json.record?
    ["const", "len", "min_len", "max_len", "len_bytes", "min_bytes", "max_bytes", "pattern",
      "prefix", "suffix", "contains", "not_contains", "in", "not_in", "well_known", "strict",
      "ignore_empty", "error"] true j
  return {
    const := ← r.optional? "const" Json.text?
    len := ← r.optional? "len" Length.ofJson?
    minLen := ← r.optional? "min_len" Length.ofJson?
    maxLen := ← r.optional? "max_len" Length.ofJson?
    lenBytes := ← r.optional? "len_bytes" Length.ofJson?
    minBytes := ← r.optional? "min_bytes" Length.ofJson?
    maxBytes := ← r.optional? "max_bytes" Length.ofJson?
    pattern := ← r.optional? "pattern" Json.text?
    startsWith := ← r.optional? "prefix" Json.text?
    endsWith := ← r.optional? "suffix" Json.text?
    contains := ← r.optional? "contains" Json.text?
    lacks := ← r.optional? "not_contains" Json.text?
    allowed := ← r.list? "in" Json.text?
    denied := ← r.list? "not_in" Json.text?
    format := ← r.optional? "well_known" StringFormat.ofJson?
    strict := ← r.optional? "strict" Json.flag?
    ignoreEmpty := ← r.flag? "ignore_empty"
    error := ← r.optional? "error" ErrorSpec.ofJson? }

def BytesFormat.ofJson? (j : Json) : Option BytesFormat :=
  match Json.constant? j with
  | some "ip" => some ip
  | some "ipv4" => some ipv4
  | some "ipv6" => some ipv6
  | _ => none

def BytesRule.ofJson? (j : Json) : Option BytesRule := do
  let r ← Json.record?
    ["const", "len", "min_len", "max_len", "pattern", "prefix", "suffix", "contains", "in",
      "not_in", "well_known", "ignore_empty", "error"] true j
  return {
    const := ← r.optional? "const" Json.bytes?
    len := ← r.optional? "len" Length.ofJson?
    minLen := ← r.optional? "min_len" Length.ofJson?
    maxLen := ← r.optional? "max_len" Length.ofJson?
    pattern := ← r.optional? "pattern" Json.text?
    startsWith := ← r.optional? "prefix" Json.bytes?
    endsWith := ← r.optional? "suffix" Json.bytes?
    contains := ← r.optional? "contains" Json.bytes?
    allowed := ← r.list? "in" Json.bytes?
    denied := ← r.list? "not_in" Json.bytes?
    format := ← r.optional? "well_known" BytesFormat.ofJson?
    ignoreEmpty := ← r.flag? "ignore_empty"
    error := ← r.optional? "error" ErrorSpec.ofJson? }

def EnumRule.ofJson? (j : Json) : Option EnumRule := do
  let r ← Json.record? ["const", "defined_only", "in", "not_in", "error"] true j
  return {
    const := ← r.optional? "const" (Json.word? .int32)
    definedOnly := ← r.flag? "defined_only"
    allowed := ← r.list? "in" (Json.word? .int32)
    denied := ← r.list? "not_in" (Json.word? .int32)
    error := ← r.optional? "error" ErrorSpec.ofJson? }

def AnyRule.ofJson? (j : Json) : Option AnyRule := do
  let r ← Json.record? ["required", "in", "not_in", "error"] true j
  return {
    required := ← r.flag? "required"
    allowed := ← r.list? "in" Json.text?
    denied := ← r.list? "not_in" Json.text?
    error := ← r.optional? "error" ErrorSpec.ofJson? }

def DurationLiteral.ofJson? (j : Json) : Option DurationLiteral := do
  let r ← Json.record? ["seconds", "nanos"] true j
  return {
    seconds := ← r.default? "seconds" 0 (Json.word? .int64)
    nanos := ← r.default? "nanos" 0 (Json.word? .int32) }

def TimestampLiteral.ofJson? (j : Json) : Option TimestampLiteral := do
  let r ← Json.record? ["seconds", "nanos"] true j
  return {
    seconds := ← r.default? "seconds" 0 (Json.word? .int64)
    nanos := ← r.default? "nanos" 0 (Json.word? .int32) }

/-- Bounds that may be left out also of an array. -/
def Bounds.ofRecord? {α : Type} (r : Json.Record) (read : Json → Option α) :
    Option (Bounds α) := do
  return {
    const := ← r.optional? "const" read
    lt := ← r.optional? "lt" read
    lte := ← r.optional? "lte" read
    gt := ← r.optional? "gt" read
    gte := ← r.optional? "gte" read }

def DurationRule.ofJson? (j : Json) : Option DurationRule := do
  let r ← Json.record?
    ["required", "const", "lt", "lte", "gt", "gte", "in", "not_in", "error"] true j
  return {
    required := ← r.flag? "required"
    bounds := ← Bounds.ofRecord? r DurationLiteral.ofJson?
    allowed := ← r.list? "in" DurationLiteral.ofJson?
    denied := ← r.list? "not_in" DurationLiteral.ofJson?
    error := ← r.optional? "error" ErrorSpec.ofJson? }

def TimestampRule.ofJson? (j : Json) : Option TimestampRule := do
  let r ← Json.record?
    ["required", "const", "lt", "lte", "gt", "gte", "lt_now", "gt_now", "within", "error"] true j
  return {
    required := ← r.flag? "required"
    bounds := ← Bounds.ofRecord? r TimestampLiteral.ofJson?
    ltNow := ← r.flag? "lt_now"
    gtNow := ← r.flag? "gt_now"
    within := ← r.optional? "within" DurationLiteral.ofJson?
    error := ← r.optional? "error" ErrorSpec.ofJson? }

section Collections

variable {ρ : Type} (nested : Json → Option ρ)

def RepeatedRule.ofJson? (j : Json) : Option (RepeatedRule ρ) := do
  let r ← Json.record?
    ["min_items", "max_items", "unique", "items", "ignore_empty", "error"] true j
  return {
    minItems := ← r.optional? "min_items" Length.ofJson?
    maxItems := ← r.optional? "max_items" Length.ofJson?
    unique := ← r.flag? "unique"
    items := ← r.optional? "items" nested
    ignoreEmpty := ← r.flag? "ignore_empty"
    error := ← r.optional? "error" ErrorSpec.ofJson? }

def MapRule.ofJson? (j : Json) : Option (MapRule ρ) := do
  let r ← Json.record?
    ["min_pairs", "max_pairs", "no_sparse", "keys", "values", "ignore_empty", "error"] true j
  return {
    minPairs := ← r.optional? "min_pairs" Length.ofJson?
    maxPairs := ← r.optional? "max_pairs" Length.ofJson?
    noSparse := ← r.flag? "no_sparse"
    keys := ← r.optional? "keys" nested
    values := ← r.optional? "values" nested
    ignoreEmpty := ← r.flag? "ignore_empty"
    error := ← r.optional? "error" ErrorSpec.ofJson? }

end Collections

def alternatives? {α : Type} (read : Json → Option α) (payload : Json) : Option (List α) := do
  let r ← Json.record? ["rules"] true payload
  r.list? "rules" read

namespace TypedRules

variable {ρ : Type}

def ofPayload? (nested : Json → Option ρ) (payload : Json) : RuleKind → Option (TypedRules ρ)
  | .any => (alternatives? AnyRule.ofJson? payload).map fun rs => value (.any rs)
  | .bool => (BoolRules.ofJson? payload).map fun r => value (.bool r)
  | .bytes => (alternatives? BytesRule.ofJson? payload).map fun rs => value (.bytes rs)
  | .duration => (alternatives? DurationRule.ofJson? payload).map fun rs => value (.duration rs)
  | .enum => (alternatives? EnumRule.ofJson? payload).map fun rs => value (.enum rs)
  | .map => (alternatives? (MapRule.ofJson? nested) payload).map map
  | .numeric k =>
    (alternatives? (NumericRule.ofJson? k.format) payload).map fun rs => value (.numeric k rs)
  | .repeated => (alternatives? (RepeatedRule.ofJson? nested) payload).map repeated
  | .string => (alternatives? StringRule.ofJson? payload).map fun rs => value (.string rs)
  | .timestamp => (alternatives? TimestampRule.ofJson? payload).map fun rs => value (.timestamp rs)

def nestedKeys : RuleKind → List String
  | .repeated => ["items"]
  | .map => ["keys", "values"]
  | _ => []

def nestedPayloads (kind : RuleKind) (payload : Json) : List Json :=
  match payload.get? "rules" with
  | some (.arr alternatives) =>
    alternatives.flatMap fun alternative => (nestedKeys kind).filterMap alternative.get?
  | _ => []

end TypedRules

def malformedRules (reason : Malformation) : SchemaError :=
  .malformedExtension rulesKey reason

namespace TypedRules

variable {ρ : Type}

def decodeWith (nested : Json → Except SchemaError ρ) (kind : RuleKind) (payload : Json) :
    Except SchemaError (TypedRules ρ) := do
  (nestedPayloads kind payload).forM fun j => discard (nested j)
  match ofPayload? (fun j => (nested j).toOption) payload kind with
  | some rules => pure rules
  | none => throw (malformedRules (.unreadable kind.keyword payload))

end TypedRules

namespace FieldRules

def messageKey : String := "message"

def addMember (nested : Json → Except SchemaError FieldRules) (rules : FieldRules)
    (member : Json.Member) : Except SchemaError FieldRules :=
  let (key, payload) := member
  if key = messageKey then
    match MessageRules.ofJson? payload with
    | some message => .ok { rules with message := some message }
    | none => .error (malformedRules (.unreadable messageKey payload))
  else
    match RuleKind.ofKeyword? key with
    | none => .error (.unknownRuleKind key)
    | some kind =>
      match rules.kind? with
      | some first => .error (malformedRules (.twoKinds first kind))
      | none => do
        let typed ← TypedRules.decodeWith nested kind payload
        return { rules with typed := some typed }

def decodeWith (nested : Json → Except SchemaError FieldRules) :
    Json → Except SchemaError FieldRules
  | .obj members => members.foldlM (addMember nested) {}
  | _ => .error (malformedRules .notAnObject)

/-- Reads a rule set whose nested sets lie fewer than `levels` levels deep. -/
def decodeWithin : Nat → Json → Except SchemaError FieldRules
  | 0, j => .error (malformedRules (.unreadable rulesKey j))
  | levels + 1, j => decodeWith (decodeWithin levels) j

/-- Reads a rule set. The members come in the order in which the value lists them. -/
def decode (j : Json) : Except SchemaError FieldRules :=
  decodeWithin j.depth j

end FieldRules

end ProtoRules
