import ProtoRules.Descriptor.ValueType

/-!
The shape of a position that rules apply to: a single value, a list of values or a map. A field has
a shape; an item of a list, a key or a value of a map is a position of single shape.
-/

namespace ProtoRules

inductive ElementType
  | enum (name : String)
  | message (name : String)
  | scalar (type : ValueType)
deriving DecidableEq, Repr

namespace ElementType

def valueType : ElementType → ValueType
  | enum _ => .enum
  | message _ => .message
  | scalar t => t

def isEmbedded : ElementType → Bool
  | message _ => true
  | _ => false

def messageName? : ElementType → Option String
  | message name => some (Text.undot name)
  | _ => none

def enumName? : ElementType → Option String
  | enum name => some (Text.undot name)
  | _ => none

def wellKnown? (e : ElementType) : Option WellKnown :=
  e.messageName?.bind WellKnown.ofFullName?

def isPlainMessage (e : ElementType) : Bool :=
  e.isEmbedded && e.wellKnown?.isNone

end ElementType

inductive Shape
  | single (element : ElementType)
  | repeated (element : ElementType)
  | map (key value : ElementType)
deriving DecidableEq, Repr

namespace Shape

def single? : Shape → Option ElementType
  | single e => some e
  | _ => none

def element? : Shape → Option ElementType
  | single _ => none
  | repeated e => some e
  | map _ v => some v

def key? : Shape → Option ElementType
  | map k _ => some k
  | _ => none

/-- The type of the value, of an item for a list; a map counts as a message. -/
def valueType : Shape → ValueType
  | single e => e.valueType
  | repeated e => e.valueType
  | map .. => .message

def isRepeated : Shape → Bool
  | repeated _ => true
  | _ => false

def isMap : Shape → Bool
  | map .. => true
  | _ => false

def isEmbedded (s : Shape) : Bool :=
  s.single?.any ElementType.isEmbedded

def wellKnown? (s : Shape) : Option WellKnown :=
  s.single?.bind ElementType.wellKnown?

end Shape

end ProtoRules
