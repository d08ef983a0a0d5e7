import ProtoRules.Emit.RustToken
import ProtoRules.Rules.Basic
import ProtoRules.Text.Properties

/-!
Literals of Rust source text. Numbers carry their type; a negative one is the operator and the
number without its sign.
-/

namespace ProtoRules.Rust

def suffix : NumberFormat → String
  | .binary f => if f = .single then "f32" else "f64"
  | .word (.signed bits) => "i" ++ toString bits
  | .word (.unsigned bits) => "u" ++ toString bits

def signed (negative : Bool) (magnitude : String) : Tokens :=
  if negative then [.op "-", .literal magnitude] else [.literal magnitude]

def integer (n : Int) (type : String) : Tokens :=
  signed (n < 0) (toString n.natAbs ++ type)

def binary {f : FloatFormat} (x : Binary f) (type : String) : Tokens :=
  match x with
  | .nan => rooted ["core", type, "NAN"]
  | .infinite false => rooted ["core", type, "INFINITY"]
  | .infinite true => rooted ["core", type, "NEG_INFINITY"]
  | .finite negative m e => signed negative ((Binary.finite (f := f) false m e).text ++ type)

def number : (f : NumberFormat) → Number f → Tokens
  | .binary f, x => binary x (suffix (.binary f))
  | .word f, w => integer w.val (suffix (.word f))

def length (n : Length) : Tokens :=
  number (.word .uint64) n

def nanoseconds (n : Int) : Tokens :=
  integer n "i128"

def bool (b : Bool) : Tokens :=
  [.word (if b then "true" else "false")]

def isPlain (c : Char) : Bool :=
  let n := c.toNat
  if n < 128 then 0x20 ≤ n && n ≤ 0x7E
  else !Text.extenders.contains n && !Text.unprintables.contains n

/-- The escape of a NUL, which must not run together with an octal digit behind it. -/
def escapeNul (digitFollows : Bool) : List Char :=
  if digitFollows then ['\\', 'x', '0', '0'] else ['\\', '0']

def escapeChar (c : Char) : List Char :=
  match c with
  | '\t' => ['\\', 't']
  | '\n' => ['\\', 'n']
  | '\r' => ['\\', 'r']
  | '"' => ['\\', '"']
  | '\\' => ['\\', '\\']
  | c =>
    if isPlain c then [c] else ['\\', 'u', '{'] ++ Nat.toDigits 16 c.toNat ++ ['}']

def isOctal (c : Char) : Bool :=
  '0' ≤ c && c ≤ '7'

def stringChars : List Char → List Char
  | [] => []
  | c :: cs =>
    (if c.toNat = 0 then escapeNul (cs.head?.any isOctal) else escapeChar c) ++ stringChars cs

def string (s : String) : Tokens :=
  [.literal (String.ofList ('"' :: stringChars s.toList ++ ['"']))]

def escapeByte (b : UInt8) : List Char :=
  let n := b.toNat
  if n < 128 ∧ (Char.ofNat n = '\t' ∨ Char.ofNat n = '\n' ∨ Char.ofNat n = '\r' ∨
      (0x20 ≤ n ∧ n ≤ 0x7E)) then escapeChar (Char.ofNat n)
  else
    let digits := (Nat.toDigits 16 n).map Char.toUpper
    ['\\', 'x'] ++ List.replicate (2 - digits.length) '0' ++ digits

def bytesChars : Bytes → List Char
  | [] => []
  | b :: bs =>
    (if b = 0 then escapeNul (bs.head?.any fun b => isOctal (Char.ofNat b.toNat))
      else escapeByte b) ++ bytesChars bs

def bytes (bs : Bytes) : Tokens :=
  [.op "&", .literal (String.ofList (['b', '"'] ++ bytesChars bs ++ ['"'])),
    squares [.op ".."]]

end ProtoRules.Rust
