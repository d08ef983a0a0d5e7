import ProtoRules.Check.Fault
import ProtoRules.Descriptor.Shape

/-!
Whether rules of a kind apply to a position. Scalar kinds apply to a single value of their type and
to the wrapper message that carries one, the kinds of well-known messages to just that message, the
kinds of collections to the collection.
-/

namespace ProtoRules.Shape

def valueMismatch? (s : Shape) (expected : ValueType) (wrapper : Option WellKnown) :
    Option Mismatch :=
  if wrapper.isSome && s.wellKnown? == wrapper then none
  else if s.isRepeated then some .onList
  else if s.isMap then some .onMap
  else if s.valueType = expected then none
  else some (.valueType s.valueType expected)

def wellKnownMismatch? (s : Shape) (expected : WellKnown) : Option Mismatch :=
  if s.wellKnown? = some expected then none else some (.notWellKnown expected)

def mismatch? (s : Shape) : RuleKind → Option Mismatch
  | .any => s.wellKnownMismatch? .any
  | .duration => s.wellKnownMismatch? .duration
  | .timestamp => s.wellKnownMismatch? .timestamp
  | .repeated => if s.isRepeated then none else some .notList
  | .map => if s.isMap then none else some .notMap
  | .bool => s.valueMismatch? .bool RuleKind.bool.wrapper?
  | .bytes => s.valueMismatch? .bytes RuleKind.bytes.wrapper?
  | .enum => s.valueMismatch? .enum RuleKind.enum.wrapper?
  | .numeric k => s.valueMismatch? (.numeric k) (RuleKind.numeric k).wrapper?
  | .string => s.valueMismatch? .string RuleKind.string.wrapper?

end ProtoRules.Shape
