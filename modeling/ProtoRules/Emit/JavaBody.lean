import ProtoRules.Emit.JavaLiteral
import ProtoRules.Emit.JavaStatement
import ProtoRules.Rules.WellKnownPattern

/-!
The statements that check a field. Every rule becomes a call that is handed the error to raise, the
value, and what the value is held against; an alternative without an error cannot have calls.
-/

namespace ProtoRules.Java

structure Call where
  method : String
  operands : List Operand := []
deriving DecidableEq, Repr

namespace Call

def optional {α : Type} (method : String) (value : Option α) (operand : α → Operand) : List Call :=
  (value.map fun v => ⟨method, [operand v]⟩).toList

def named {α : Type} (method : String) (value : Option α) (name : String) : List Call :=
  optional method value fun _ => .constant name

def ofFlag (method : String) (flag : Bool) : List Call :=
  if flag then [⟨method, []⟩] else []

def const {α : Type} (name : String → String) (value : Option α) : List Call :=
  named "ConstantValidation.constant" value (name "Const")

def count (method : String) (n : Option Length) : List Call :=
  optional method n fun n => .code n.text

def sets {α : Type} (name : String → String) (allowed denied : List α) : List Call :=
  (if allowed.isEmpty then [] else [⟨"CollectiveValidation.in", [.constant (name "In")]⟩]) ++
    (if denied.isEmpty then [] else [⟨"CollectiveValidation.notIn", [.constant (name "NotIn")]⟩])

def lessThan : String := "ComparativeValidation.lessThan"
def greaterThan : String := "ComparativeValidation.greaterThan"

def bounds {α : Type} (name : String → String) (comparator : String) (b : Bounds α) : List Call :=
  let lt := b.lt.map fun _ => Operand.constant (name "Lt")
  let lte := b.lte.map fun _ => Operand.constant (name "Lte")
  let gt := b.gt.map fun _ => Operand.constant (name "Gt")
  let gte := b.gte.map fun _ => Operand.constant (name "Gte")
  if (lt <|> lte).isSome && (gt <|> gte).isSome then
    [⟨"ComparativeValidation.range",
      [lt, lte, gt, gte].map (·.getD nullOperand) ++ [.code comparator]⟩]
  else
    [(lessThan, lt), ("ComparativeValidation.lessThanOrEqual", lte),
      (greaterThan, gt), ("ComparativeValidation.greaterThanOrEqual", gte)].flatMap
      fun (method, bound) => (bound.map fun b => ⟨method, [b, .code comparator]⟩).toList

def naturalOrder : String := "java.util.Comparator.naturalOrder()"
def durationOrder : String := "com.google.protobuf.util.Durations.comparator()"
def timestampOrder : String := "com.google.protobuf.util.Timestamps.comparator()"

def currentTime : Operand :=
  .code (runtime ++ ".TimestampValidation.currentTimestamp()")

def ofNumeric {α : Type} (name : String → String) (r : NumericRule α) : List Call :=
  const name r.bounds.const ++ bounds name naturalOrder r.bounds ++ sets name r.allowed r.denied

def stringFormatMethod? : StringFormat → Option String
  | .address => some "address"
  | .email => some "email"
  | .hostname => some "hostName"
  | .ip => some "ip"
  | .ipv4 => some "ipv4"
  | .ipv6 => some "ipv6"
  | .uri => some "uri"
  | .uriRef => some "uriRef"
  | .uuid => some "uuid"
  | .pattern _ => none

def quotedText (method : String) (value : Option String) : List Call :=
  optional method value fun s => .code (string s)

def ofString (name : String → String) (r : StringRule) : List Call :=
  quotedText "ConstantValidation.constant" r.const ++
    sets name r.allowed r.denied ++
    count "StringValidation.length" r.len ++
    count "StringValidation.minLength" r.minLen ++
    count "StringValidation.maxLength" r.maxLen ++
    count "StringValidation.lenBytes" r.lenBytes ++
    count "StringValidation.minBytes" r.minBytes ++
    count "StringValidation.maxBytes" r.maxBytes ++
    named "StringValidation.pattern" r.effectivePattern? (name "Pattern") ++
    quotedText "StringValidation.prefix" r.startsWith ++
    quotedText "StringValidation.contains" r.contains ++
    quotedText "StringValidation.notContains" r.lacks ++
    quotedText "StringValidation.suffix" r.endsWith ++
    ((r.format.bind stringFormatMethod?).map fun m => ⟨"StringValidation." ++ m, []⟩).toList

def bytesFormatMethod : BytesFormat → String
  | .ip => "BytesValidation.ip"
  | .ipv4 => "BytesValidation.ipv4"
  | .ipv6 => "BytesValidation.ipv6"

def ofBytes (name : String → String) (r : BytesRule) : List Call :=
  const name r.const ++
    count "BytesValidation.length" r.len ++
    count "BytesValidation.minLength" r.minLen ++
    count "BytesValidation.maxLength" r.maxLen ++
    named "BytesValidation.pattern" r.pattern (name "Pattern") ++
    named "BytesValidation.prefix" r.startsWith (name "Prefix") ++
    named "BytesValidation.contains" r.contains (name "Contains") ++
    named "BytesValidation.suffix" r.endsWith (name "Suffix") ++
    (r.format.map fun f => ⟨bytesFormatMethod f, []⟩).toList ++
    sets name r.allowed r.denied

def ofEnum (type : String) (name : String → String) (r : EnumRule) : List Call :=
  optional "ConstantValidation.constant" r.const
      (fun n => .code (type ++ ".forNumber(" ++ n.text ++ ")")) ++
    ofFlag "EnumValidation.definedOnly" r.definedOnly ++
    sets name r.allowed r.denied

def ofDuration (name : String → String) (r : DurationRule) : List Call :=
  const name r.bounds.const ++ bounds name durationOrder r.bounds ++ sets name r.allowed r.denied

def ofTimestamp (name : String → String) (r : TimestampRule) : List Call :=
  const name r.bounds.const ++ bounds name timestampOrder r.bounds ++
    (if r.ltNow then [⟨lessThan, [currentTime, .code timestampOrder]⟩] else []) ++
    (if r.gtNow then [⟨greaterThan, [currentTime, .code timestampOrder]⟩] else []) ++
    (r.within.map fun _ =>
      ⟨"TimestampValidation.within", [.constant (name "Within"), currentTime]⟩).toList

def ofRepeated {ρ : Type} (r : RepeatedRule ρ) : List Call :=
  count "RepeatedValidation.minItems" r.minItems ++
    count "RepeatedValidation.maxItems" r.maxItems ++
    ofFlag "RepeatedValidation.unique" r.unique

def ofMap {ρ : Type} (r : MapRule ρ) : List Call :=
  count "MapValidation.min" r.minPairs ++
    count "MapValidation.max" r.maxPairs ++
    ofFlag "MapValidation.noSparse" r.noSparse

end Call

def errorOperand (c : Context) (alternative : Nat) (own : Option ErrorSpec) : Rendered Operand :=
  match c.error own with
  | none => .error (.missingError c.field.name)
  | some spec => .ok (.error (errorName c alternative) spec)

def callStatements (c : Context) (alternative : Nat) (own : Option ErrorSpec)
    (condition : Option String) (subject : String) (calls : List Call) :
    Rendered (List Statement) :=
  if calls.isEmpty then .ok []
  else do
    let error ← errorOperand c alternative own
    return calls.map fun call =>
      .call condition call.method (error :: .code subject :: call.operands)

def requiredStatement (c : Context) (alternative : Nat) (own : Option ErrorSpec)
    (isRequired : Bool) : Rendered (List Statement) :=
  if isRequired then do
    return [.required (presence c) (← errorOperand c alternative own) (accessor c)]
  else .ok []

def missingOperand (c : Context) (rules : MessageRules) : Rendered Operand :=
  match c.ownsErrors, rules.error with
  | true, some own => .ok (.error (requiredName c) own)
  | _, _ => errorOperand c 0 none

def alternativeStatements {α : Type} (rules : List α)
    (statements : α → Nat → Rendered (List Statement)) : Rendered (List Statement) :=
  concatM (fun (r, i) => statements r i) rules.zipIdx

def notEmpty (c : Context) : String :=
  "!" ++ accessor c ++ ".isEmpty()"

def onlyIf (flag : Bool) (condition : String) : Option String :=
  if flag then some condition else none

def valueStatements (schema : Schema) (c : Context) : ValueRules → Rendered (List Statement)
  | .any rules => alternativeStatements rules fun r i => do
    let required ← requiredStatement c i r.error r.required
    let calls ← callStatements c i r.error (some (presence c)) (accessor c ++ ".getTypeUrl()")
      (Call.sets (constantName c · i) r.allowed r.denied)
    return required ++ calls
  | .bool r => callStatements c 0 r.error none (accessor c)
      (Call.optional "ConstantValidation.constant" r.const fun b =>
        .code (if b then "true" else "false"))
  | .bytes rules => alternativeStatements rules fun r i => do
    let calls ← callStatements c i r.error none (accessor c) (Call.ofBytes (constantName c · i) r)
    return Statement.guarded (onlyIf r.ignoreEmpty (notEmpty c)) calls
  | .duration rules => alternativeStatements rules fun r i => do
    let required ← requiredStatement c i r.error r.required
    let calls ← callStatements c i r.error (some (presence c)) (accessor c)
      (Call.ofDuration (constantName c · i) r)
    return required ++ calls
  | .enum rules => do
    let type ← enumClass schema c
    alternativeStatements rules fun r i =>
      callStatements c i r.error none (accessor c) (Call.ofEnum type (constantName c · i) r)
  | .numeric _ rules => alternativeStatements rules fun r i => do
    let calls ← callStatements c i r.error none (accessor c)
      (Call.ofNumeric (constantName c · i) r)
    return Statement.guarded (onlyIf r.ignoreEmpty (accessor c ++ " != 0")) calls
  | .string rules => alternativeStatements rules fun r i => do
    let calls ← callStatements c i r.error none (accessor c) (Call.ofString (constantName c · i) r)
    return Statement.guarded (onlyIf r.ignoreEmpty (notEmpty c)) calls
  | .timestamp rules => alternativeStatements rules fun r i => do
    let required ← requiredStatement c i r.error r.required
    let calls ← callStatements c i r.error (some (presence c)) (accessor c)
      (Call.ofTimestamp (constantName c · i) r)
    return required ++ calls

def messageStatements (c : Context) (rules : Option MessageRules) :
    Rendered (List Statement) := do
  let rules := rules <|> c.messageRules
  if rules.any (·.skip) then
    return [.note ("skipping validation for " ++ c.field.name)]
  let required ← match rules with
    | some rules =>
      if rules.required then do
        pure [Statement.required (presence c) (← missingOperand c rules) (accessor c)]
      else pure []
    | none => pure []
  let delegated :=
    if c.shape.single?.any ElementType.isPlainMessage then
      [Statement.note ("Validate " ++ c.field.name), .delegate (presence c) (accessor c)]
    else []
  return required ++ delegated

def wrapperStatements (inner : String → Rendered (List Statement)) (c : Context) :
    Rendered (List Statement) := do
  let body ← inner (accessor c ++ ".getValue()")
  match c.messageRules.filter (·.required) with
  | some rules => return [.unwrapped (presence c) body (some (← missingOperand c rules))]
  | none => return if body.isEmpty then [] else [.unwrapped (presence c) body none]

/-- The statements for the items of a list: those of every alternative that declares some, and
embedded messages are checked in any case. -/
def repeatedStatements (elements : Context.Step → Rendered (List Statement)) (c : Context)
    (rules : List (RepeatedRule FieldRules)) : Rendered (List Statement) := do
  let method := "RepeatedValidation.forEach"
  let declared ← alternativeStatements rules fun r i => do
    let calls ← callStatements c i r.error none (accessor c) (Call.ofRepeated r)
    let items ← if r.items.isSome then elements ⟨"item", "", some i⟩ else pure []
    return Statement.guarded (onlyIf r.ignoreEmpty (notEmpty c))
      (calls ++ Statement.forAll method (accessor c) "item" items)
  let embedded ←
    if rules.all (·.items.isNone) && c.shape.element?.any ElementType.isPlainMessage then
      elements ⟨"item", "", none⟩
    else pure []
  return declared ++ Statement.forAll method (accessor c) "item" embedded

def mapStatements (keys elements : Context.Step → Rendered (List Statement)) (c : Context)
    (rules : List (MapRule FieldRules)) : Rendered (List Statement) := do
  let method := "MapValidation.validateParts"
  let keySet := accessor c ++ ".keySet()"
  let values := accessor c ++ ".values()"
  let declared ← alternativeStatements rules fun r i => do
    let calls ← callStatements c i r.error none (accessor c) (Call.ofMap r)
    let key ← if r.keys.isSome then keys ⟨"key", "Key", some i⟩ else pure []
    let value ← if r.values.isSome then elements ⟨"value", "Value", some i⟩ else pure []
    return Statement.guarded (onlyIf r.ignoreEmpty (notEmpty c))
      (calls ++ Statement.forAll method keySet "key" key ++
        Statement.forAll method values "value" value)
  let embedded ←
    if rules.all (·.values.isNone) && c.shape.element?.any ElementType.isPlainMessage then
      elements ⟨"value", "Value", none⟩
    else pure []
  return declared ++ Statement.forAll method values "value" embedded

def statementsPass (schema : Schema) : Pass Statement where
  message := messageStatements
  value := valueStatements schema
  wrapper := wrapperStatements
  repeated := repeatedStatements
  map := mapStatements

end ProtoRules.Java
