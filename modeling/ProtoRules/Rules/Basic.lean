import ProtoRules.Rules.Kind
import ProtoRules.Rules.Temporal

/-!
Rule sets. The rules of a kind come as a list of alternatives, each with an error of its own; the
rules of lists and maps hold further rule sets for their items, keys and values.
-/

namespace ProtoRules

structure ErrorSpec where
  method : String
  code : Option (Word .int32) := none
  message : Option String := none
deriving DecidableEq, Repr

/-- The class that the error methods of a message belong to. -/
structure ErrorBase where
  owner : String
deriving DecidableEq, Repr

structure MessageRules where
  skip : Bool := false
  required : Bool := false
  error : Option ErrorSpec := none
deriving DecidableEq, Repr

structure OneofRules where
  required : Bool := false
  error : Option ErrorSpec := none
deriving DecidableEq, Repr

abbrev Length := Word .uint64

structure Bounds (α : Type) where
  const : Option α := none
  lt : Option α := none
  lte : Option α := none
  gt : Option α := none
  gte : Option α := none
deriving DecidableEq, Repr

structure NumericRule (α : Type) where
  bounds : Bounds α := {}
  allowed : List α := []
  denied : List α := []
  ignoreEmpty : Bool := false
  error : Option ErrorSpec := none
deriving DecidableEq, Repr

structure BoolRules where
  const : Option Bool := none
  error : Option ErrorSpec := none
deriving DecidableEq, Repr

inductive KnownPattern
  | unknown
  | headerName
  | headerValue
deriving DecidableEq, Repr

inductive StringFormat
  | address
  | email
  | hostname
  | ip
  | ipv4
  | ipv6
  | uri
  | uriRef
  | uuid
  | pattern (p : KnownPattern)
deriving DecidableEq, Repr

structure StringRule where
  const : Option String := none
  len : Option Length := none
  minLen : Option Length := none
  maxLen : Option Length := none
  lenBytes : Option Length := none
  minBytes : Option Length := none
  maxBytes : Option Length := none
  pattern : Option String := none
  startsWith : Option String := none
  endsWith : Option String := none
  contains : Option String := none
  lacks : Option String := none
  allowed : List String := []
  denied : List String := []
  format : Option StringFormat := none
  strict : Option Bool := none
  ignoreEmpty : Bool := false
  error : Option ErrorSpec := none
deriving DecidableEq, Repr

inductive BytesFormat
  | ip
  | ipv4
  | ipv6
deriving DecidableEq, Repr

abbrev Bytes := List UInt8

structure BytesRule where
  const : Option Bytes := none
  len : Option Length := none
  minLen : Option Length := none
  maxLen : Option Length := none
  pattern : Option String := none
  startsWith : Option Bytes := none
  endsWith : Option Bytes := none
  contains : Option Bytes := none
  allowed : List Bytes := []
  denied : List Bytes := []
  format : Option BytesFormat := none
  ignoreEmpty : Bool := false
  error : Option ErrorSpec := none
deriving DecidableEq, Repr

structure EnumRule where
  const : Option (Word .int32) := none
  definedOnly : Bool := false
  allowed : List (Word .int32) := []
  denied : List (Word .int32) := []
  error : Option ErrorSpec := none
deriving DecidableEq, Repr

structure AnyRule where
  required : Bool := false
  allowed : List String := []
  denied : List String := []
  error : Option ErrorSpec := none
deriving DecidableEq, Repr

structure DurationRule where
  required : Bool := false
  bounds : Bounds DurationLiteral := {}
  allowed : List DurationLiteral := []
  denied : List DurationLiteral := []
  error : Option ErrorSpec := none
deriving DecidableEq, Repr

structure TimestampRule where
  required : Bool := false
  bounds : Bounds TimestampLiteral := {}
  ltNow : Bool := false
  gtNow : Bool := false
  within : Option DurationLiteral := none
  error : Option ErrorSpec := none
deriving DecidableEq, Repr

inductive ValueRules
  | any (rules : List AnyRule)
  | bool (rules : BoolRules)
  | bytes (rules : List BytesRule)
  | duration (rules : List DurationRule)
  | enum (rules : List EnumRule)
  | numeric (k : NumericKind) (rules : List (NumericRule (Number k.format)))
  | string (rules : List StringRule)
  | timestamp (rules : List TimestampRule)

namespace ValueRules

def kind : ValueRules → RuleKind
  | any _ => .any
  | bool _ => .bool
  | bytes _ => .bytes
  | duration _ => .duration
  | enum _ => .enum
  | numeric k _ => .numeric k
  | string _ => .string
  | timestamp _ => .timestamp

end ValueRules

structure RepeatedRule (ρ : Type) where
  minItems : Option Length := none
  maxItems : Option Length := none
  unique : Bool := false
  items : Option ρ := none
  ignoreEmpty : Bool := false
  error : Option ErrorSpec := none

structure MapRule (ρ : Type) where
  minPairs : Option Length := none
  maxPairs : Option Length := none
  noSparse : Bool := false
  keys : Option ρ := none
  values : Option ρ := none
  ignoreEmpty : Bool := false
  error : Option ErrorSpec := none

/-- The rules of one kind, over rule sets `ρ` for items, keys and values. -/
inductive TypedRules (ρ : Type)
  | value (rules : ValueRules)
  | repeated (rules : List (RepeatedRule ρ))
  | map (rules : List (MapRule ρ))

namespace TypedRules

variable {ρ : Type}

def kind : TypedRules ρ → RuleKind
  | value rules => rules.kind
  | repeated _ => .repeated
  | map _ => .map

end TypedRules

structure FieldRules where
  message : Option MessageRules := none
  typed : Option (TypedRules FieldRules) := none

namespace FieldRules

instance : Inhabited FieldRules := ⟨{}⟩

def kind? (r : FieldRules) : Option RuleKind :=
  r.typed.map TypedRules.kind

end FieldRules

def lastDeclaring? {α β : Type} (declared? : α → Option β) (alternatives : List α) :
    Option (Nat × β) :=
  (alternatives.zipIdx.filterMap fun (a, i) => (declared? a).map (i, ·)).getLast?

end ProtoRules
