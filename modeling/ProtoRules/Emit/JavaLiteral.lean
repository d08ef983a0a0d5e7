import ProtoRules.Rules.Basic
import ProtoRules.Text.Enclosures

/-!
Literals of Java source text. A number that a signed type cannot hold is written so that the bits of
the value are kept.
-/

namespace ProtoRules.Java

inductive NumberLiteral
  | int (n : Int)
  | long (n : Int)
  | castInt (n : Int)
  | parseLong (n : Int)
  | float (text : String)
  | double (text : String)
deriving DecidableEq, Repr

namespace NumberLiteral

def text : NumberLiteral → String
  | int n => toString n
  | long n => toString n ++ "L"
  | castInt n => "(int) " ++ toString n ++ "L"
  | parseLong n => "Long.parseUnsignedLong(\"" ++ toString n ++ "\")"
  | float text => text
  | double text => text

/-- A float by its digits and the letter of its type, or by the name of its constant. -/
def floatText {f : FloatFormat} (type letter : String) : Binary f → String
  | .nan => type ++ ".NaN"
  | .infinite false => type ++ ".POSITIVE_INFINITY"
  | .infinite true => type ++ ".NEGATIVE_INFINITY"
  | x => x.text ++ letter

def ofNumber : (f : NumberFormat) → Number f → NumberLiteral
  | .binary f, x =>
    if f = .single then float (floatText "Float" "F" x) else double (floatText "Double" "D" x)
  | .word (.signed 64), w => long w.val
  | .word (.signed _), w => int w.val
  | .word (.unsigned 64), w => if w.val ≤ IntFormat.int64.hi then long w.val else parseLong w.val
  | .word (.unsigned _), w => if w.val ≤ IntFormat.int32.hi then int w.val else castInt w.val

end NumberLiteral

def number (f : NumberFormat) (x : Number f) : String :=
  (NumberLiteral.ofNumber f x).text

def boxed : NumericKind → String
  | .double => "Double"
  | .float => "Float"
  | .fixed32 | .int32 | .sfixed32 | .sint32 | .uint32 => "Integer"
  | .fixed64 | .int64 | .sfixed64 | .sint64 | .uint64 => "Long"

def hex (width n : Nat) : List Char :=
  let digits := Nat.toDigits 16 n
  List.replicate (width - digits.length) '0' ++ digits

def units16 (c : Char) : List Nat :=
  let n := c.toNat
  if n < 0x10000 then [n]
  else [0xD800 + (n - 0x10000) / 0x400, 0xDC00 + (n - 0x10000) % 0x400]

/-- A code unit inside a string literal: printable ASCII as it is, all else escaped. -/
def escapeUnit (n : Nat) : List Char :=
  if n = 0x22 then ['\\', '"']
  else if n = 0x5C then ['\\', '\\']
  else if n = 0x0A then ['\\', 'n']
  else if n = 0x0D then ['\\', 'r']
  else if n = 0x09 then ['\\', 't']
  else if 0x20 ≤ n ∧ n ≤ 0x7E then [Char.ofNat n]
  else '\\' :: 'u' :: hex 4 n

def stringChars (cs : List Char) : List Char :=
  '"' :: (cs.flatMap fun c => (units16 c).flatMap escapeUnit) ++ ['"']

def string (s : String) : String :=
  String.ofList (stringChars s.toList)

def byte (b : UInt8) : String :=
  "(byte) 0x" ++ String.ofList (hex 2 b.toNat)

def bytes (bs : Bytes) : String :=
  "new byte[]" ++ braced (", ".intercalate (bs.map byte))

def timeBuilder (type : String) (seconds : Word .int64) (nanos : Word .int32) : String :=
  type ++ ".newBuilder().setSeconds(" ++ seconds.text ++ "L).setNanos(" ++ nanos.text ++
    ").build()"

def durationType : String := "com.google.protobuf.Duration"
def timestampType : String := "com.google.protobuf.Timestamp"

def duration (d : DurationLiteral) : String :=
  timeBuilder durationType d.seconds d.nanos

def timestamp (t : TimestampLiteral) : String :=
  timeBuilder timestampType t.seconds t.nanos

def errorCall (base : Option ErrorBase) (spec : ErrorSpec) : String :=
  let args := (spec.code.map Word.text).toList ++ (spec.message.map string).toList
  let method := match base with
    | some base => base.owner ++ "." ++ spec.method
    | none => spec.method
  method ++ "(" ++ ", ".intercalate args ++ ")"

end ProtoRules.Java
