import ProtoRules.Number.Numeral
import ProtoRules.Text.Pieces

/-!
The types of protobuf values: scalars by their keyword, enums and messages, and the message types
of the package `google.protobuf` that have rules of their own.
-/

namespace ProtoRules

inductive NumericKind
  | double
  | fixed32
  | fixed64
  | float
  | int32
  | int64
  | sfixed32
  | sfixed64
  | sint32
  | sint64
  | uint32
  | uint64
deriving DecidableEq, Repr

namespace NumericKind

def all : List NumericKind :=
  [double, fixed32, fixed64, float, int32, int64, sfixed32, sfixed64, sint32, sint64, uint32,
    uint64]

def keyword : NumericKind → String
  | double => "double"
  | fixed32 => "fixed32"
  | fixed64 => "fixed64"
  | float => "float"
  | int32 => "int32"
  | int64 => "int64"
  | sfixed32 => "sfixed32"
  | sfixed64 => "sfixed64"
  | sint32 => "sint32"
  | sint64 => "sint64"
  | uint32 => "uint32"
  | uint64 => "uint64"

def format : NumericKind → NumberFormat
  | double => .binary .double
  | float => .binary .single
  | int32 | sfixed32 | sint32 => .word .int32
  | int64 | sfixed64 | sint64 => .word .int64
  | fixed32 | uint32 => .word .uint32
  | fixed64 | uint64 => .word .uint64

end NumericKind

inductive ValueType
  | bool
  | bytes
  | enum
  | message
  | string
  | numeric (k : NumericKind)
deriving DecidableEq, Repr

namespace ValueType

def all : List ValueType :=
  [bool, bytes, enum, message, string] ++ NumericKind.all.map numeric

def keyword : ValueType → String
  | bool => "bool"
  | bytes => "bytes"
  | enum => "enum"
  | message => "message"
  | string => "string"
  | numeric k => k.keyword

def ofKeyword? (s : String) : Option ValueType :=
  all.find? (·.keyword == s)

def isNumeric : ValueType → Bool
  | numeric _ => true
  | _ => false

end ValueType

inductive WellKnown
  | any
  | boolValue
  | bytesValue
  | doubleValue
  | duration
  | floatValue
  | int32Value
  | int64Value
  | stringValue
  | timestamp
  | uint32Value
  | uint64Value
deriving DecidableEq, Repr

namespace WellKnown

def all : List WellKnown :=
  [any, boolValue, bytesValue, doubleValue, duration, floatValue, int32Value, int64Value,
    stringValue, timestamp, uint32Value, uint64Value]

def name : WellKnown → String
  | any => "Any"
  | boolValue => "BoolValue"
  | bytesValue => "BytesValue"
  | doubleValue => "DoubleValue"
  | duration => "Duration"
  | floatValue => "FloatValue"
  | int32Value => "Int32Value"
  | int64Value => "Int64Value"
  | stringValue => "StringValue"
  | timestamp => "Timestamp"
  | uint32Value => "UInt32Value"
  | uint64Value => "UInt64Value"

def package : String := "google.protobuf"

def fullName (t : WellKnown) : String :=
  package ++ "." ++ t.name

def ofFullName? (name : String) : Option WellKnown := do
  let local_ ← Text.after? (package ++ ".") (Text.undot name)
  all.find? (·.name == local_)

def wrapped? : WellKnown → Option ValueType
  | boolValue => some .bool
  | bytesValue => some .bytes
  | doubleValue => some (.numeric .double)
  | floatValue => some (.numeric .float)
  | int32Value => some (.numeric .int32)
  | int64Value => some (.numeric .int64)
  | stringValue => some .string
  | uint32Value => some (.numeric .uint32)
  | uint64Value => some (.numeric .uint64)
  | any | duration | timestamp => none

end WellKnown

end ProtoRules
