import ProtoRules.Descriptor.ValueType

/-!
The kinds of typed rules. A rule set names its kind by keyword and holds at most one of them.
-/

namespace ProtoRules

inductive RuleKind
  | any
  | bool
  | bytes
  | duration
  | enum
  | map
  | numeric (k : NumericKind)
  | repeated
  | string
  | timestamp
deriving DecidableEq, Repr

namespace RuleKind

def all : List RuleKind :=
  [any, bool, bytes, duration, enum, map, repeated, string, timestamp] ++
    NumericKind.all.map numeric

def keyword : RuleKind → String
  | any => "any"
  | bool => "bool"
  | bytes => "bytes"
  | duration => "duration"
  | enum => "enum"
  | map => "map"
  | numeric k => k.keyword
  | repeated => "repeated"
  | string => "string"
  | timestamp => "timestamp"

def ofKeyword? (s : String) : Option RuleKind :=
  all.find? (·.keyword == s)

def valueType? : RuleKind → Option ValueType
  | bool => some .bool
  | bytes => some .bytes
  | enum => some .enum
  | numeric k => some (.numeric k)
  | string => some .string
  | any | duration | map | repeated | timestamp => none

def wrapper? : RuleKind → Option WellKnown
  | bool => some .boolValue
  | bytes => some .bytesValue
  | numeric .double => some .doubleValue
  | numeric .float => some .floatValue
  | numeric .int32 => some .int32Value
  | numeric .int64 => some .int64Value
  | numeric .uint32 => some .uint32Value
  | numeric .uint64 => some .uint64Value
  | string => some .stringValue
  | _ => none

theorem ofKeyword?_keyword (k : RuleKind) : ofKeyword? k.keyword = some k := by
  cases k with
  | numeric k => cases k <;> decide
  | _ => decide

theorem keyword_injective {a b : RuleKind} (h : a.keyword = b.keyword) : a = b := by
  have ha := ofKeyword?_keyword a
  rw [h, ofKeyword?_keyword b] at ha
  exact (Option.some.inj ha).symm

theorem keyword_of_ofKeyword? {s : String} {k : RuleKind} (h : ofKeyword? s = some k) :
    k.keyword = s := by
  have := List.find?_some h
  simpa using this

end RuleKind

end ProtoRules
