import ProtoRules.Number.Shortest
import ProtoRules.Number.Word

/-!
The numbers that rules are declared over: integers of a fixed width and binary floating-point
numbers. Only integers have neighbours; between two different floats a rule always leaves room.
-/

namespace ProtoRules

/-- What the consistency checks ask of a kind of numbers. -/
class Numeral (α : Type) where
  same : α → α → Bool
  below : α → α → Bool
  next? : α → Option α
  prev? : α → Option α
  text : α → String

instance (f : IntFormat) : Numeral (Word f) where
  same a b := a.val == b.val
  below a b := a.val < b.val
  next? := Word.next?
  prev? := Word.prev?
  text := Word.text

instance (f : FloatFormat) : Numeral (Binary f) where
  same := Binary.same
  below := Binary.below
  next? _ := none
  prev? _ := none
  text := Binary.text

inductive NumberFormat
  | word (f : IntFormat)
  | binary (f : FloatFormat)
deriving DecidableEq, Repr

/-- Whether the numbers of a format are integers. -/
def NumberFormat.IsInteger : NumberFormat → Prop
  | .word _ => True
  | .binary _ => False

abbrev Number : NumberFormat → Type
  | .word f => Word f
  | .binary f => Binary f

instance instNumeralNumber : (f : NumberFormat) → Numeral (Number f)
  | .word f => inferInstanceAs (Numeral (Word f))
  | .binary f => inferInstanceAs (Numeral (Binary f))

def Number.default : (f : NumberFormat) → Number f
  | .word _ => (0 : Word _)
  | .binary _ => Binary.zero false

instance (f : NumberFormat) : Inhabited (Number f) := ⟨Number.default f⟩

end ProtoRules
