import ProtoRules.Check.Fit
import ProtoRules.Descriptor.File

/-!
Contexts: the rules of one position, ready to be written as checks. The context of a field leads on
to those of its keys, its elements and the scalar inside a wrapper. Below a collection no further
collection can follow, so every chain of steps ends after two.
-/

namespace ProtoRules

/-- The rules that apply to a position once its shape is taken into account. -/
inductive ContextRules
  | message (rules : Option MessageRules)
  | none
  | typed (rules : TypedRules FieldRules)
  | wrapper (rules : ValueRules)

inductive Tag
  | kind (k : RuleKind)
  | message
  | none
  | wrapper (k : RuleKind)
deriving DecidableEq, Repr

def Tag.text : Tag → String
  | kind k => k.keyword
  | message => "message"
  | none => "none"
  | wrapper k => "wrapper(" ++ k.keyword ++ ")"

def ContextRules.tag : ContextRules → Tag
  | message _ => .message
  | none => .none
  | typed rules => .kind rules.kind
  | wrapper rules => .wrapper rules.kind

inductive ProjectionError
  | notACollection (field : String)
  | notAMap (field : String)
  | notAWrapper (field : String) (tag : Tag)
  | schema (e : SchemaError)
  | unresolvable (field : String) (kind : RuleKind)
deriving DecidableEq, Repr

def ProjectionError.message : ProjectionError → String
  | notACollection field => "cannot get element context from field " ++ quoted field
  | notAMap field => "cannot get key context from field " ++ quoted field
  | notAWrapper field tag =>
    "cannot unwrap non-wrapper context of field " ++ quoted field ++ " (" ++ tag.text ++ ")"
  | schema e => e.message
  | unresolvable field kind =>
    "unknown rule type (" ++ kind.keyword ++ ") for field " ++ quoted field

def SchemaError.project {α : Type} : Except SchemaError α → Except ProjectionError α
  | .ok a => .ok a
  | .error e => .error (.schema e)

structure Context where
  field : Field
  shape : Shape
  rules : ContextRules
  messageRules : Option MessageRules
  errorBase : Option ErrorBase
  /-- Whether failing rules raise errors of their own rather than that of the enclosing rule. -/
  ownsErrors : Bool
  errorIndex : Option Nat
  inherited : Option ErrorSpec
  /-- What sets the names of this position apart from those of the field. -/
  suffix : String
  accessor : Option String

namespace Shape

def accepts (s : Shape) : RuleKind → Bool
  | .repeated => s.isRepeated
  | .map => s.isMap
  | .any => s.wellKnown? == some .any
  | .duration => s.wellKnown? == some .duration
  | .timestamp => s.wellKnown? == some .timestamp
  | kind => s.single?.map ElementType.valueType == kind.valueType?

def defaultRules (s : Shape) (message : Option MessageRules) : ContextRules :=
  if s.isRepeated then .typed (.repeated [])
  else if s.element?.any ElementType.isEmbedded then .typed (.map [])
  else if s.isEmbedded then .message message
  else .none

end Shape

namespace Context

/-- The rules of a rule set at a position, and its message rules. -/
def resolve (field : String) (shape : Shape) (rules : FieldRules) :
    Except ProjectionError (ContextRules × Option MessageRules) :=
  match rules.typed with
  | none => .ok (shape.defaultRules rules.message, rules.message)
  | some typed =>
    let kind := typed.kind
    match typed, kind.wrapper?.isSome && shape.wellKnown? == kind.wrapper? with
    | .value v, true => .ok (.wrapper v, rules.message)
    | typed, _ =>
      if shape.accepts kind then .ok (.typed typed, rules.message)
      else .error (.unresolvable field kind)

def ofField (message : Message) (field : Field) : Except ProjectionError Context := do
  let errorBase ← SchemaError.project message.errorBase
  let declared ← SchemaError.project field.rules
  let (rules, messageRules) ← resolve field.name field.shape (declared.getD {})
  return {
    field, rules, messageRules, errorBase
    shape := field.shape
    ownsErrors := true
    errorIndex := none
    inherited := none
    suffix := ""
    accessor := none }

def tag (c : Context) : Tag :=
  c.rules.tag

def isNested (c : Context) : Bool :=
  c.accessor.isSome

/-- The error that a failing rule raises, `own` being the one it declares. -/
def error (c : Context) (own : Option ErrorSpec) : Option ErrorSpec :=
  if c.ownsErrors then own <|> c.inherited else c.inherited <|> own

def alternativeError {α : Type} (error : α → Option ErrorSpec) (rules : List α)
    (index : Option Nat) : Option ErrorSpec := do
  error (← rules[← index]?)

structure Step where
  accessor : String
  suffix : String := ""
  errorIndex : Option Nat := none
deriving DecidableEq, Repr

/-- The context of a position inside a collection; it reports through the enclosing rule. -/
def child (c : Context) (step : Step) (element : ElementType) (declared : Option FieldRules)
    (inherited : Option ErrorSpec) : Except ProjectionError Context := do
  let (rules, messageRules) ← resolve c.field.name (.single element) (declared.getD {})
  return {
    field := c.field
    errorBase := c.errorBase
    rules, messageRules
    shape := .single element
    ownsErrors := false
    errorIndex := step.errorIndex
    inherited := inherited <|> c.inherited
    suffix := step.suffix
    accessor := some step.accessor }

def key (c : Context) (step : Step) : Except ProjectionError Context :=
  match c.rules, c.shape.key? with
  | .typed (.map rules), some key =>
    let declared := lastDeclaring? MapRule.keys rules
    let index := step.errorIndex <|> declared.map (·.1)
    c.child step key (declared.map (·.2)) (alternativeError MapRule.error rules index)
  | _, _ => .error (.notAMap c.field.name)

def element (c : Context) (step : Step) : Except ProjectionError Context :=
  match c.rules, c.shape.element? with
  | .typed (.repeated rules), some e =>
    let declared := lastDeclaring? RepeatedRule.items rules
    let index := step.errorIndex <|> declared.map (·.1)
    c.child step e (declared.map (·.2)) (alternativeError RepeatedRule.error rules index)
  | .typed (.map rules), some e =>
    let declared := lastDeclaring? MapRule.values rules
    let index := step.errorIndex <|> declared.map (·.1)
    c.child step e (declared.map (·.2)) (alternativeError MapRule.error rules index)
  | _, _ => .error (.notACollection c.field.name)

def unwrap (c : Context) (accessor : String) : Except ProjectionError Context :=
  match c.rules with
  | .wrapper rules => .ok { c with rules := .typed (.value rules), accessor := some accessor }
  | _ => .error (.notAWrapper c.field.name c.tag)

end Context

end ProtoRules
