import ProtoRules.Json.Basic
import ProtoRules.Number.Word

/-!
Numbers in JSON text. The value of a number that is no 64-bit integer is built from the digits that
fit in 64 bits: they are rounded to a float, which is then scaled by a power of ten in one more
rounding, so the last bit may differ from that of the nearest float.
-/

namespace ProtoRules.Json

def digit (c : Char) : Nat :=
  c.toNat - '0'.toNat

/-- Digits appended to a significand while it fits in 64 bits, and the number of digits taken. -/
def appendDigits : Nat → List Char → Nat × Nat
  | n, [] => (n, 0)
  | n, c :: cs =>
    if n * 10 + digit c < IntFormat.count 64 then
      let (m, taken) := appendDigits (n * 10 + digit c) cs
      (m, taken + 1)
    else (n, 0)

def power (n : Nat) : Binary .double :=
  Binary.ofDecimal .double false 1 n

def product : Binary .double → Binary .double → Binary .double
  | .finite _ m e, .finite _ n d =>
    let (num, den) := scaledRatio (m * n) (e + d)
    Binary.ofRatio .double false num den
  | x, _ => x

def quotient : Binary .double → Binary .double → Binary .double
  | .finite _ m e, .finite _ n d =>
    let (num, den) := scaledRatio m (e - d)
    Binary.ofRatio .double false num (den * n)
  | x, _ => x

def isZero : Binary .double → Bool
  | .finite _ 0 _ => true
  | _ => false

def maxPower : Nat := 308

/-- A float scaled by a power of ten, `none` beyond the largest finite one. Two steps down from any
64-bit significand reach zero, so four are always enough. -/
def scale : Nat → Binary .double → Int → Option (Binary .double)
  | 0, x, _ => some x
  | steps + 1, x, e =>
    if e.natAbs ≤ maxPower then
      let y := if 0 ≤ e then product x (power e.natAbs) else quotient x (power e.natAbs)
      if y.isFinite then some y else none
    else if isZero x then some x
    else if 0 ≤ e then none
    else scale steps (quotient x (power maxPower)) (e + maxPower)

def negate : Binary .double → Binary .double
  | .finite s m e => .finite (!s) m e
  | .infinite s => .infinite (!s)
  | .nan => .nan

def signed (negative : Bool) (x : Binary .double) : Json :=
  float (if negative then negate x else x)

/-- The value of a number with a fraction or an exponent, or with more digits than 64 bits hold. -/
def floatValue (negative : Bool) (significand : Nat) (exponent : Int) : Json :=
  match scale 4 (Binary.ofInt .double significand) exponent with
  | some x => signed negative x
  | none => unreadable

/-- The greatest exponent that is taken at its word. -/
def maxExponent : Nat := IntFormat.count 31 - 1

/-- The value of a number whose exponent is written out, `drift` being due to digits left out and
digits after the point. -/
def exponentValue (negative : Bool) (significand : Nat) (drift : Int) (down : Bool)
    (digits : List Char) : Json :=
  let e := digits.foldl (fun n c => n * 10 + digit c) 0
  if maxExponent < e then
    if significand ≠ 0 ∧ !down then unreadable else signed negative (Binary.zero false)
  else floatValue negative significand (if down then drift - e else drift + e)

def integerValue (negative : Bool) (n : Nat) : Json :=
  if !negative then int n
  else if n = 0 ∨ IntFormat.count 63 < n then signed true (Binary.ofInt .double n)
  else int (-n)

/-- The digits of a number as they are written, and whether its exponent counts down. -/
structure Written where
  negative : Bool
  whole : List Char
  fraction : Option (List Char)
  exponent : Option (Bool × List Char)

def Written.value (w : Written) : Json :=
  let (significand, taken) := appendDigits 0 w.whole
  let left := w.whole.length - taken
  let (significand, drift) := match w.fraction with
    | some fraction =>
      let (m, taken) := appendDigits significand fraction
      (m, (left : Int) - taken)
    | none => (significand, (left : Int))
  match w.exponent with
  | some (down, digits) => exponentValue w.negative significand drift down digits
  | none =>
    if w.fraction.isSome || left ≠ 0 then floatValue w.negative significand drift
    else integerValue w.negative significand

def readSign : List Char → Bool × List Char
  | '-' :: cs => (true, cs)
  | cs => (false, cs)

/-- A leading zero stands alone. -/
def readWhole (cs : List Char) : Option (List Char × List Char) :=
  match cs with
  | '0' :: cs => if (cs.head?.map Char.isDigit) = some true then none else some (['0'], cs)
  | cs => if (cs.span Char.isDigit).1 = [] then none else some (cs.span Char.isDigit)

/-- A point needs a digit behind it. -/
def readFraction : List Char → Option (Option (List Char) × List Char)
  | '.' :: cs =>
    let (fraction, rest) := cs.span Char.isDigit
    if fraction = [] then none else some (some fraction, rest)
  | cs => some (none, cs)

def readExponent : List Char → Option (Option (Bool × List Char) × List Char)
  | 'e' :: cs | 'E' :: cs =>
    let (down, cs) := match cs with
      | '+' :: cs => (false, cs)
      | '-' :: cs => (true, cs)
      | cs => (false, cs)
    let (digits, rest) := cs.span Char.isDigit
    if digits = [] then none else some (some (down, digits), rest)
  | cs => some (none, cs)

def readNumber (cs : List Char) : Option (Json × List Char) := do
  let (negative, cs) := readSign cs
  let (whole, cs) ← readWhole cs
  let (fraction, cs) ← readFraction cs
  let (exponent, cs) ← readExponent cs
  return (Written.value ⟨negative, whole, fraction, exponent⟩, cs)

end ProtoRules.Json
