import ProtoRules.Emit.RustName
import ProtoRules.Rules.WellKnownPattern

/-!
The tokens that check a field. Every rule becomes an early return under the condition that a value
violates it; the value goes by the name `v`.
-/

namespace ProtoRules.Rust

/-- A condition under which a value violates a rule. -/
abbrev Violation := Tokens

def value : Tokens := [.word "v"]

def target : Tokens := [.op "*", .word "v"]

def not (condition : Tokens) : Tokens :=
  .op "!" :: condition

def compare (left : Tokens) (op : String) (right : Tokens) : Tokens :=
  left ++ [.op op] ++ right

/-- A comparison that does not hold; it holds of nothing that cannot be compared. -/
def fails (left : Tokens) (op : String) (right : Tokens) : Violation :=
  not [parens (compare left op right)]

def isMember (members : List Tokens) (subject : Tokens) : Tokens :=
  squares (commas members) :: method "contains" subject

def setViolations {α : Type} (literal : α → Tokens) (subject : Tokens) (allowed denied : List α) :
    List Violation :=
  (if allowed.isEmpty then [] else [not (isMember (allowed.map literal) subject)]) ++
    (if denied.isEmpty then [] else [isMember (denied.map literal) subject])

def boundViolations {α : Type} (literal : α → Tokens) (subject : Tokens) (b : Bounds α) :
    List Violation :=
  [(b.lt, "<"), (b.lte, "<="), (b.gt, ">"), (b.gte, ">=")].flatMap
    fun (bound, op) => (bound.map fun b => fails subject op (literal b)).toList

def constViolation {α : Type} (literal : α → Tokens) (subject : Tokens) (const : Option α) :
    List Violation :=
  (const.map fun v => compare subject "!=" (literal v)).toList

def size : Tokens :=
  [parens (value ++ method "len" [] ++ [.word "as", .word "u64"])]

def charCount : Tokens :=
  [parens (value ++ method "chars" [] ++ method "count" [] ++ [.word "as", .word "u64"])]

def lengthViolations (count : Tokens) (exact min max : Option Length) : List Violation :=
  [(exact, "!="), (min, "<"), (max, ">")].flatMap
    fun (bound, op) => (bound.map fun n => compare count op (length n)).toList

def affixViolation {α : Type} (negated : Bool) (name : String) (literal : α → Tokens)
    (affix : Option α) : List Violation :=
  (affix.map fun a =>
    let call := value ++ method name (literal a)
    if negated then not call else call).toList

def mismatch (regex : Tokens) (pattern : String) (subject : Tokens) : Violation :=
  let lazy := rooted ["std", "sync", "LazyLock"]
  let compiled := regex ++ [.op "::", .word "new", parens (string pattern)] ++
    method "expect" (string "valid pattern")
  [braces ([.word "static", .word "PATTERN", .op ":"] ++ lazy ++ [.op "<"] ++ regex ++
    [.op ">", .op "="] ++ lazy ++ [.op "::", .word "new", parens (.op "||" :: compiled), .op ";"] ++
    not ([.word "PATTERN"] ++ method "is_match" subject))]

def textRegex : Tokens := rooted ["regex", "Regex"]
def bytesRegex : Tokens := rooted ["regex", "bytes", "Regex"]

/-- Labels with dots between them, as the names of hosts are made of. -/
def domainPattern : String :=
  let label := "[a-zA-Z0-9](?:[a-zA-Z0-9-]" ++ braced "0,61" ++ "[a-zA-Z0-9])?"
  label ++ "(?:\\." ++ label ++ ")*"

def emailPattern : String :=
  "^[a-zA-Z0-9.!#$%&'*+/=?^_`" ++ braced "|" ++ "~-]+@" ++ domainPattern ++ "$"

def hostnamePattern : String :=
  "^" ++ domainPattern ++ "\\.?$"

def uriPattern : String := "^[a-zA-Z][a-zA-Z0-9+.-]*:[^\\s]*$"

def uriRefPattern : String := "^[^\\s]*$"

def uuidPattern : String :=
  let digits (count : String) := "[0-9a-fA-F]" ++ braced count
  "^" ++ "-".intercalate (["8", "4", "4", "4", "12"].map digits) ++ "$"

def unparsable (type : String) : Violation :=
  value ++ [.op ".", .word "parse", .op "::", .op "<"] ++ rooted ["std", "net", type] ++
    [.op ">", parens []] ++ method "is_err" []

def notHostname : Violation :=
  compare (value ++ method "len" []) ">" [.literal "253"] ++ [.op "||"] ++
    mismatch textRegex hostnamePattern value

def stringFormatViolation? : StringFormat → Option Violation
  | .address => some (unparsable "IpAddr" ++ [.op "&&", parens notHostname])
  | .email => some (mismatch textRegex emailPattern value)
  | .hostname => some notHostname
  | .ip => some (unparsable "IpAddr")
  | .ipv4 => some (unparsable "Ipv4Addr")
  | .ipv6 => some (unparsable "Ipv6Addr")
  | .uri => some (mismatch textRegex uriPattern value)
  | .uriRef => some (mismatch textRegex uriRefPattern value)
  | .uuid => some (mismatch textRegex uuidPattern value)
  | .pattern _ => none

def bytesFormatViolation : BytesFormat → Violation
  | .ip => not (rooted ["core", "matches"] ++ [.op "!", parens (value ++ method "len" [] ++
      [.op ",", .literal "4", .op "|", .literal "16"])])
  | .ipv4 => compare (value ++ method "len" []) "!=" [.literal "4"]
  | .ipv6 => compare (value ++ method "len" []) "!=" [.literal "16"]

def numericViolations (f : NumberFormat) (r : NumericRule (Number f)) : List Violation :=
  constViolation (number f) target r.bounds.const ++
    boundViolations (number f) target r.bounds ++
    setViolations (number f) value r.allowed r.denied

def asStr : Tokens := value ++ method "as_str" []

def stringViolations (r : StringRule) : List Violation :=
  constViolation string asStr r.const ++
    lengthViolations charCount r.len r.minLen r.maxLen ++
    lengthViolations size r.lenBytes r.minBytes r.maxBytes ++
    (r.effectivePattern?.map fun p => mismatch textRegex p value).toList ++
    affixViolation true "starts_with" string r.startsWith ++
    affixViolation true "ends_with" string r.endsWith ++
    affixViolation true "contains" string r.contains ++
    affixViolation false "contains" string r.lacks ++
    setViolations string (.op "&" :: asStr) r.allowed r.denied ++
    (r.format.bind stringFormatViolation?).toList

def asSlice : Tokens := value ++ method "as_slice" []

/-- The condition for a part that the value has to contain; every value contains no bytes at all. -/
def partViolation (part : Bytes) : List Violation :=
  if part.isEmpty then []
  else [not (value ++ method "windows" [.literal (toString part.length ++ "usize")] ++
    method "any" ([.op "|", .word "w", .op "|", .word "w", .op "=="] ++ bytes part))]

def bytesViolations (r : BytesRule) : List Violation :=
  constViolation bytes asSlice r.const ++
    lengthViolations size r.len r.minLen r.maxLen ++
    (r.pattern.map fun p => mismatch bytesRegex p asSlice).toList ++
    affixViolation true "starts_with" bytes r.startsWith ++
    affixViolation true "ends_with" bytes r.endsWith ++
    (r.contains.map partViolation).getD [] ++
    setViolations bytes (.op "&" :: asSlice) r.allowed r.denied ++
    (r.format.map bytesFormatViolation).toList

def undefinedNumber (type : Tokens) : Violation :=
  [.op "<"] ++ type ++ [.word "as"] ++ rooted ["core", "convert", "TryFrom"] ++
    [.op "<", .word "i32", .op ">>", .op "::", .word "try_from", parens target] ++
    method "is_err" []

def enumViolations (type : Tokens) (r : EnumRule) : List Violation :=
  let literal := number (.word .int32)
  constViolation literal target r.const ++
    (if r.definedOnly then [undefinedNumber type] else []) ++
    setViolations literal value r.allowed r.denied

def repeatedViolations {ρ : Type} (r : RepeatedRule ρ) : List Violation :=
  lengthViolations size none r.minItems r.maxItems ++
    (if r.unique then
      [value ++ method "iter" [] ++ method "enumerate" [] ++ method "any" ([.op "|",
        parens [.word "i", .op ",", .word "a"], .op "|", .word "v",
        squares [.op "..", .word "i"]] ++
        method "contains" [.word "a"])]
    else [])

def mapViolations {ρ : Type} (r : MapRule ρ) : List Violation :=
  lengthViolations size none r.minPairs r.maxPairs

/-- The early returns for the rules of an alternative, all with the same error. -/
def returns (c : Context) (own : Option ErrorSpec) (violations : List Violation) :
    Rendered Tokens :=
  if violations.isEmpty then .ok []
  else do
    let error ← fail c own
    return violations.flatMap fun violation => [.word "if"] ++ violation ++ [braces error]

def guarded (condition : Option Tokens) (checks : Tokens) : Tokens :=
  match condition with
  | some condition => if checks.isEmpty then [] else [.word "if"] ++ condition ++ [braces checks]
  | none => checks

def onlyIf (flag : Bool) (condition : Tokens) : Option Tokens :=
  if flag then some condition else none

def notEmpty : Tokens := not (value ++ method "is_empty" [])

def notDefault : Tokens :=
  compare target "!=" (rooted ["core", "default", "Default", "default"] ++ [parens []])

def forAll (binding : String) (parts : String) (checks : Tokens) : Tokens :=
  if checks.isEmpty then []
  else [.word "for", .word binding, .word "in"] ++ value ++ method parts [] ++ [braces checks]

def bind (c : Context) (checks : Tokens) : Rendered Tokens :=
  if checks.isEmpty then .ok []
  else do
    let subject ← place c (fun name => [name])
      (fun field => [.op "&", .word "self", .op ".", field])
    return [braces ([.word "let", .word "v", .op "="] ++ subject ++ [.op ";"] ++ checks)]

def optional (c : Context) (missing present : Tokens) : Rendered Tokens :=
  if missing.isEmpty && present.isEmpty then .ok []
  else do
    let subject ← place c (fun name => optionSome ++ [parens [name]])
      (fun field => [.word "self", .op ".", field] ++ method "as_ref" [])
    return matchOption subject "v" present missing

def wide (field : String) : Tokens :=
  [.word "i128", .op "::", .word "from", parens (value ++ member field)]

def letNanos : Tokens :=
  [.word "let", .word "nanos", .op "="] ++ wide "seconds" ++
    [.op "*", .literal "1_000_000_000", .op "+"] ++ wide "nanos" ++ [.op ";"]

def letNow : Tokens :=
  let time := rooted ["std", "time", "SystemTime", "now"] ++ [parens []] ++
    method "duration_since" (rooted ["std", "time", "UNIX_EPOCH"])
  [.word "let", .word "now", .op "="] ++ time ++
    method "map_or" ([.literal "0", .op ",", .op "|", .word "d", .op "|", .word "d"] ++
      method "as_nanos" [] ++ [.word "as", .word "i128"]) ++ [.op ";"]

def nanos : Tokens := [.word "nanos"]
def now : Tokens := [.word "now"]

def scaled? {α : Type} (scale : α → Except TemporalError Int) : Option α → Rendered (Option Int)
  | none => .ok none
  | some v => do return some (← TemporalError.render (scale v))

def scaledAll {α : Type} (scale : α → Except TemporalError Int) (values : List α) :
    Rendered (List Int) :=
  concatM (fun v => do return [← TemporalError.render (scale v)]) values

def scaledBounds {α : Type} (scale : α → Except TemporalError Int) (c : Context)
    (own : Option ErrorSpec) (b : Bounds α) : Rendered Tokens := do
  let const ← scaled? scale b.const
  let constReturns ← returns c own (constViolation nanoseconds nanos const)
  let bounds : Bounds Int :=
    { lt := ← scaled? scale b.lt, lte := ← scaled? scale b.lte
      gt := ← scaled? scale b.gt, gte := ← scaled? scale b.gte }
  return constReturns ++ (← returns c own (boundViolations nanoseconds nanos bounds))

def requiredReturn (c : Context) (own : Option ErrorSpec) (isRequired : Bool) : Rendered Tokens :=
  if isRequired then fail c own else .ok []

def durationReturns (c : Context) (r : DurationRule) : Rendered (Tokens × Tokens) := do
  let missing ← requiredReturn c r.error r.required
  let bounds ← scaledBounds DurationLiteral.totalNanos c r.error r.bounds
  let allowed ← scaledAll DurationLiteral.totalNanos r.allowed
  let denied ← scaledAll DurationLiteral.totalNanos r.denied
  let sets ← returns c r.error (setViolations nanoseconds (.op "&" :: nanos) allowed denied)
  return (missing, bounds ++ sets)

def timestampReturns (c : Context) (r : TimestampRule) : Rendered (Tokens × Tokens) := do
  let missing ← requiredReturn c r.error r.required
  let bounds ← scaledBounds TimestampLiteral.unixNanos c r.error r.bounds
  let past ← returns c r.error (if r.ltNow then [fails nanos "<" now] else [])
  let future ← returns c r.error (if r.gtNow then [fails nanos ">" now] else [])
  let distance ← scaled? DurationLiteral.totalNanos r.within
  let within ← returns c r.error (distance.map fun n =>
    compare ([parens (compare nanos "-" now)] ++ method "abs" []) ">" (nanoseconds n)).toList
  return (missing, bounds ++ past ++ future ++ within)

def isRelative (r : TimestampRule) : Bool :=
  r.ltNow || r.gtNow || r.within.isSome

def anyReturns (c : Context) (r : AnyRule) : Rendered (Tokens × Tokens) := do
  let missing ← requiredReturn c r.error r.required
  let subject := [Token.op "&"] ++ value ++ member "type_url" ++ method "as_str" []
  let sets ← returns c r.error (setViolations string subject r.allowed r.denied)
  return (missing, sets)

def bothReturns {α : Type} (one : α → Rendered (Tokens × Tokens)) :
    List α → Rendered (Tokens × Tokens)
  | [] => .ok ([], [])
  | a :: as => do
    let (missing, present) ← one a
    let (moreMissing, morePresent) ← bothReturns one as
    return (missing ++ moreMissing, present ++ morePresent)

def after (declarations checks : Tokens) : Tokens :=
  if checks.isEmpty then [] else declarations ++ checks

def valueTokens (schema : Schema) (package : String) (c : Context) : ValueRules → Rendered Tokens
  | .any rules => do
    let (missing, present) ← bothReturns (anyReturns c) rules
    optional c missing present
  | .bool r => do
    bind c (← returns c r.error (constViolation bool target r.const))
  | .bytes rules => do
    bind c (← concatM (fun r => do
      return guarded (onlyIf r.ignoreEmpty notEmpty)
        (← returns c r.error (bytesViolations r))) rules)
  | .duration rules => do
    let (missing, present) ← bothReturns (durationReturns c) rules
    optional c missing (after letNanos present)
  | .enum rules => do
    match c.shape.single?.bind ElementType.enumName? with
    | none => .error (.schema (.unknownEnum c.field.name))
    | some name =>
      discard (SchemaError.render (schema.enumeration name))
      let type ← typePath schema package name
      bind c (← concatM (fun r => returns c r.error (enumViolations type r)) rules)
  | .numeric k rules => do
    bind c (← concatM (fun r => do
      return guarded (onlyIf r.ignoreEmpty notDefault)
        (← returns c r.error (numericViolations k.format r))) rules)
  | .string rules => do
    bind c (← concatM (fun r => do
      return guarded (onlyIf r.ignoreEmpty notEmpty)
        (← returns c r.error (stringViolations r))) rules)
  | .timestamp rules => do
    let (missing, present) ← bothReturns (timestampReturns c) rules
    let declarations := letNanos ++ (if rules.any isRelative then letNow else [])
    optional c missing (after declarations present)

def validated (subject : Tokens) : Tokens :=
  subject ++ method "validate" [] ++ [.op "?", .op ";"]

def messageTokens (c : Context) (rules : Option MessageRules) : Rendered Tokens := do
  let rules := rules <|> c.messageRules
  if rules.any (·.skip) then return []
  let required ← match rules.filter fun r => r.required && !c.isNested with
    | some rules => do
      let field ← fieldIdentifier c.field.name
      let error ← fail c rules.error
      pure ([Token.word "if", .word "self", .op ".", field] ++ method "is_none" [] ++
        [braces error])
    | none => pure []
  let embedded ←
    if c.shape.single?.any ElementType.isPlainMessage then
      place c (fun name => validated [name]) (fun field =>
        [.word "if", .word "let"] ++ optionSome ++ [parens [.word "m"], .op "=", .op "&",
          .word "self", .op ".", field, braces (validated [.word "m"])])
    else pure []
  return required ++ embedded

/-- The scalar of a wrapper: below a collection it stands for the wrapper itself. -/
def wrapperTokens (inner : String → Rendered Tokens) (c : Context) : Rendered Tokens :=
  match c.accessor with
  | some accessor => inner accessor
  | none => do
    let present ← inner "inner"
    let missing ← match c.messageRules.filter (·.required) with
      | some rules => fail c rules.error
      | none => pure []
    if present.isEmpty && missing.isEmpty then return []
    let field ← fieldIdentifier c.field.name
    return matchOption [.op "&", .word "self", .op ".", field] "inner" present missing

/-- The checks for the items of a list: those of every alternative that declares some, and embedded
messages are checked in any case. -/
def repeatedTokens (elements : Context.Step → Rendered Tokens) (c : Context)
    (rules : List (RepeatedRule FieldRules)) : Rendered Tokens := do
  let declared ← concatM (fun (r, i) => do
    let checks ← returns c r.error (repeatedViolations r)
    let items ← if r.items.isSome then elements ⟨"item", "", some i⟩ else pure []
    return guarded (onlyIf r.ignoreEmpty notEmpty) (checks ++ forAll "item" "iter" items))
    rules.zipIdx
  let embedded ←
    if rules.all (·.items.isNone) && c.shape.element?.any ElementType.isPlainMessage then
      elements ⟨"item", "", none⟩
    else pure []
  bind c (declared ++ forAll "item" "iter" embedded)

def mapTokens (keys elements : Context.Step → Rendered Tokens) (c : Context)
    (rules : List (MapRule FieldRules)) : Rendered Tokens := do
  let declared ← concatM (fun (r, i) => do
    let checks ← returns c r.error (mapViolations r)
    let key ← if r.keys.isSome then keys ⟨"key", "Key", some i⟩ else pure []
    let value ← if r.values.isSome then elements ⟨"value", "Value", some i⟩ else pure []
    return guarded (onlyIf r.ignoreEmpty notEmpty)
      (checks ++ forAll "key" "keys" key ++ forAll "value" "values" value))
    rules.zipIdx
  let embedded ←
    if rules.all (·.values.isNone) && c.shape.element?.any ElementType.isPlainMessage then
      elements ⟨"value", "Value", none⟩
    else pure []
  bind c (declared ++ forAll "value" "values" embedded)

def checksPass (schema : Schema) (package : String) : Pass Token where
  message := messageTokens
  value := valueTokens schema package
  wrapper := wrapperTokens
  repeated := repeatedTokens
  map := mapTokens

end ProtoRules.Rust
