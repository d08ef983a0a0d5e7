import ProtoRules.Json.Record
import ProtoRules.Rules.Basic

/-!
Writing rule sets as JSON. Rules that are not declared are left out, flags are always written.
-/

namespace ProtoRules

open Json (opt many ofWord ofBytes ofNumber)

def ErrorSpec.toJson (e : ErrorSpec) : Json :=
  .obj ([("method", .str e.method)] ++ opt "code" ofWord e.code ++ opt "message" .str e.message)

def ErrorBase.toJson (b : ErrorBase) : Json :=
  .obj [("class", .str b.owner)]

def ErrorSpec.members (e : Option ErrorSpec) : List Json.Member :=
  opt "error" ErrorSpec.toJson e

def MessageRules.toJson (r : MessageRules) : Json :=
  .obj ([("skip", .bool r.skip), ("required", .bool r.required)] ++ ErrorSpec.members r.error)

def OneofRules.toJson (r : OneofRules) : Json :=
  .obj ([("required", .bool r.required)] ++ ErrorSpec.members r.error)

def Bounds.members {α : Type} (write : α → Json) (b : Bounds α) : List Json.Member :=
  opt "const" write b.const ++ opt "lt" write b.lt ++ opt "lte" write b.lte ++
    opt "gt" write b.gt ++ opt "gte" write b.gte

def NumericRule.toJson {f : NumberFormat} (r : NumericRule (Number f)) : Json :=
  .obj (r.bounds.members (ofNumber f) ++ many "in" (ofNumber f) r.allowed ++
    many "not_in" (ofNumber f) r.denied ++ [("ignore_empty", .bool r.ignoreEmpty)] ++
    ErrorSpec.members r.error)

def BoolRules.toJson (r : BoolRules) : Json :=
  .obj (opt "const" .bool r.const ++ ErrorSpec.members r.error)

def KnownPattern.toJson : KnownPattern → Json
  | unknown => .str "UNKNOWN"
  | headerName => .str "HTTP_HEADER_NAME"
  | headerValue => .str "HTTP_HEADER_VALUE"

def StringFormat.toJson : StringFormat → Json
  | address => .str "address"
  | email => .str "email"
  | hostname => .str "hostname"
  | ip => .str "ip"
  | ipv4 => .str "ipv4"
  | ipv6 => .str "ipv6"
  | uri => .str "uri"
  | uriRef => .str "uri_ref"
  | uuid => .str "uuid"
  | pattern p => .obj [("well_known_regex", p.toJson)]

def StringRule.toJson (r : StringRule) : Json :=
  .obj (opt "const" .str r.const ++ opt "len" ofWord r.len ++ opt "min_len" ofWord r.minLen ++
    opt "max_len" ofWord r.maxLen ++ opt "len_bytes" ofWord r.lenBytes ++
    opt "min_bytes" ofWord r.minBytes ++ opt "max_bytes" ofWord r.maxBytes ++
    opt "pattern" .str r.pattern ++ opt "prefix" .str r.startsWith ++
    opt "suffix" .str r.endsWith ++ opt "contains" .str r.contains ++
    opt "not_contains" .str r.lacks ++ many "in" .str r.allowed ++ many "not_in" .str r.denied ++
    opt "well_known" StringFormat.toJson r.format ++ opt "strict" .bool r.strict ++
    [("ignore_empty", .bool r.ignoreEmpty)] ++ ErrorSpec.members r.error)

def BytesFormat.toJson : BytesFormat → Json
  | ip => .str "ip"
  | ipv4 => .str "ipv4"
  | ipv6 => .str "ipv6"

def BytesRule.toJson (r : BytesRule) : Json :=
  .obj (opt "const" ofBytes r.const ++ opt "len" ofWord r.len ++ opt "min_len" ofWord r.minLen ++
    opt "max_len" ofWord r.maxLen ++ opt "pattern" .str r.pattern ++
    opt "prefix" ofBytes r.startsWith ++ opt "suffix" ofBytes r.endsWith ++
    opt "contains" ofBytes r.contains ++ many "in" ofBytes r.allowed ++
    many "not_in" ofBytes r.denied ++ opt "well_known" BytesFormat.toJson r.format ++
    [("ignore_empty", .bool r.ignoreEmpty)] ++ ErrorSpec.members r.error)

def EnumRule.toJson (r : EnumRule) : Json :=
  .obj (opt "const" ofWord r.const ++ [("defined_only", .bool r.definedOnly)] ++
    many "in" ofWord r.allowed ++ many "not_in" ofWord r.denied ++ ErrorSpec.members r.error)

def AnyRule.toJson (r : AnyRule) : Json :=
  .obj ([("required", .bool r.required)] ++ many "in" .str r.allowed ++
    many "not_in" .str r.denied ++ ErrorSpec.members r.error)

def DurationLiteral.toJson (d : DurationLiteral) : Json :=
  .obj [("seconds", ofWord d.seconds), ("nanos", ofWord d.nanos)]

def TimestampLiteral.toJson (t : TimestampLiteral) : Json :=
  .obj [("seconds", ofWord t.seconds), ("nanos", ofWord t.nanos)]

def DurationRule.toJson (r : DurationRule) : Json :=
  .obj ([("required", .bool r.required)] ++ r.bounds.members DurationLiteral.toJson ++
    many "in" DurationLiteral.toJson r.allowed ++ many "not_in" DurationLiteral.toJson r.denied ++
    ErrorSpec.members r.error)

def TimestampRule.toJson (r : TimestampRule) : Json :=
  .obj ([("required", .bool r.required)] ++ r.bounds.members TimestampLiteral.toJson ++
    [("lt_now", .bool r.ltNow), ("gt_now", .bool r.gtNow)] ++
    opt "within" DurationLiteral.toJson r.within ++ ErrorSpec.members r.error)

def alternativesJson {α : Type} (write : α → Json) (rules : List α) : Json :=
  .obj [("rules", .arr (rules.map write))]

def ValueRules.toJson : ValueRules → Json
  | any rules => alternativesJson AnyRule.toJson rules
  | bool rules => rules.toJson
  | bytes rules => alternativesJson BytesRule.toJson rules
  | duration rules => alternativesJson DurationRule.toJson rules
  | enum rules => alternativesJson EnumRule.toJson rules
  | numeric _ rules => alternativesJson NumericRule.toJson rules
  | string rules => alternativesJson StringRule.toJson rules
  | timestamp rules => alternativesJson TimestampRule.toJson rules

def RepeatedRule.toJson (r : RepeatedRule Json) : Json :=
  .obj (opt "min_items" ofWord r.minItems ++ opt "max_items" ofWord r.maxItems ++
    [("unique", .bool r.unique)] ++ opt "items" id r.items ++
    [("ignore_empty", .bool r.ignoreEmpty)] ++ ErrorSpec.members r.error)

def MapRule.toJson (r : MapRule Json) : Json :=
  .obj (opt "min_pairs" ofWord r.minPairs ++ opt "max_pairs" ofWord r.maxPairs ++
    [("no_sparse", .bool r.noSparse)] ++ opt "keys" id r.keys ++ opt "values" id r.values ++
    [("ignore_empty", .bool r.ignoreEmpty)] ++ ErrorSpec.members r.error)

namespace TypedRules

def payload : TypedRules Json → Json
  | value rules => rules.toJson
  | repeated rules => alternativesJson RepeatedRule.toJson rules
  | map rules => alternativesJson MapRule.toJson rules

end TypedRules

namespace FieldRules

mutual

def toJson : FieldRules → Json
  | ⟨message, none⟩ => .obj (opt "message" MessageRules.toJson message)
  | ⟨message, some (.value rules)⟩ =>
    .obj (opt "message" MessageRules.toJson message ++ [(rules.kind.keyword, rules.toJson)])
  | ⟨message, some (.repeated rules)⟩ =>
    .obj (opt "message" MessageRules.toJson message ++
      [(RuleKind.repeated.keyword, (TypedRules.repeated (writeItems rules)).payload)])
  | ⟨message, some (.map rules)⟩ =>
    .obj (opt "message" MessageRules.toJson message ++
      [(RuleKind.map.keyword, (TypedRules.map (writeEntries rules)).payload)])

def writeItems : List (RepeatedRule FieldRules) → List (RepeatedRule Json)
  | [] => []
  | ⟨minItems, maxItems, unique, items, ignoreEmpty, error⟩ :: rest =>
    ⟨minItems, maxItems, unique, writeNested items, ignoreEmpty, error⟩ :: writeItems rest

def writeEntries : List (MapRule FieldRules) → List (MapRule Json)
  | [] => []
  | ⟨minPairs, maxPairs, noSparse, keys, values, ignoreEmpty, error⟩ :: rest =>
    ⟨minPairs, maxPairs, noSparse, writeNested keys, writeNested values, ignoreEmpty, error⟩ ::
      writeEntries rest

def writeNested : Option FieldRules → Option Json
  | none => none
  | some rules => some rules.toJson

end

end FieldRules

end ProtoRules
