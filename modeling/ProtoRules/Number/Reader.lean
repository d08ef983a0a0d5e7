import ProtoRules.Number.Numeral

/-!
Reading numbers from text: integers with a sign where the format has one, and decimals with fraction
and exponent, rounded once to the nearest number of the format.
-/

namespace ProtoRules

def digits? (cs : List Char) : Option Nat :=
  if cs.isEmpty || !cs.all Char.isDigit then none
  else some (cs.foldl (fun n c => n * 10 + (c.toNat - '0'.toNat)) 0)

def takeSign : List Char → Bool × List Char
  | '-' :: cs => (true, cs)
  | '+' :: cs => (false, cs)
  | cs => (false, cs)

namespace Word

/-- An integer in the range of the format; a format without sign takes no minus. -/
def parse? (f : IntFormat) (s : String) : Option (Word f) := do
  let (negative, cs) := takeSign s.toList
  let n ← digits? cs
  match f, negative with
  | .unsigned _, true => none
  | _, true => ofInt? f (-n)
  | _, false => ofInt? f n

end Word

namespace Binary

/-- The names of the numbers that are not finite, in any case of letters. -/
def ofName? (f : FloatFormat) (negative : Bool) (cs : List Char) : Option (Binary f) :=
  match String.ofList (cs.map Char.toLower) with
  | "nan" => some nan
  | "inf" => some (infinite negative)
  | "infinity" => some (infinite negative)
  | _ => none

def exponent? : List Char → Option Int
  | [] => some 0
  | 'e' :: cs | 'E' :: cs => do
    let (negative, cs) := takeSign cs
    let n ← digits? cs
    return if negative then -(n : Int) else n
  | _ => none

/-- Exponents beyond this magnitude give zero or infinity whatever the digits are. -/
def clampExponent (digits : Nat) (e : Int) : Int :=
  let limit : Int := 400 + digits
  max (-limit) (min limit e)

def decimal? (f : FloatFormat) (negative : Bool) (cs : List Char) : Option (Binary f) := do
  let (whole, cs) := cs.span Char.isDigit
  let (fraction, cs) := match cs with
    | '.' :: cs => cs.span Char.isDigit
    | cs => ([], cs)
  let digits := whole ++ fraction
  let n ← digits? digits
  let e ← exponent? cs
  return ofDecimal f negative n (clampExponent digits.length e - fraction.length)

def parse? (f : FloatFormat) (s : String) : Option (Binary f) :=
  let (negative, cs) := takeSign s.toList
  decimal? f negative cs <|> ofName? f negative cs

end Binary

def Number.parse? : (f : NumberFormat) → String → Option (Number f)
  | .word f => Word.parse? f
  | .binary f => Binary.parse? f

end ProtoRules
