import ProtoRules.Number.Binary

/-!
The shortest decimal that reads back as a given binary number. Grids of 1, 2, … significant digits
are tried in turn; on each of them only the two neighbours of the number can be nearest to it, and
the first grid with a neighbour inside the interval of reals that round to the number wins.
-/

namespace ProtoRules

structure Decimal where
  digits : Nat
  exponent : Int
deriving DecidableEq, Repr

namespace Decimal

def digitCount (n : Nat) : Nat :=
  (Nat.toDigits 10 n).length

/-- The decade of `num / den`: the power of ten with `10 ^ d ≤ num / den < 10 ^ (d + 1)`. -/
def decade (num den : Nat) : Int :=
  if den ≤ num then (digitCount (num / den) : Int) - 1
  else
    let t := digitCount (den / num)
    if den = num * powTen (t - 1) then 1 - (t : Int) else -(t : Int)

def inInterval (closed : Bool) (lo hi den : Nat) (a b : Nat) : Bool :=
  if closed then lo * b ≤ a * den && a * den ≤ hi * b
  else lo * b < a * den && a * den < hi * b

/-- The numbers on both sides of `num / den` on the grid of step `10 ^ k` that lie in the interval,
the nearer one, the upper one of two equally near. -/
def neighbour? (closed : Bool) (lo num hi den : Nat) (k : Int) : Option Decimal :=
  let up := powTen k.toNat
  let down := powTen (-k).toNat
  let c := num * down / (den * up)
  let fits (d : Nat) := inInterval closed lo hi den (d * up) down
  let nearer := 2 * (num * down) < (2 * c + 1) * (den * up)
  match fits c && c != 0, fits (c + 1) with
  | true, true => some ⟨if nearer then c else c + 1, k⟩
  | true, false => some ⟨c, k⟩
  | false, true => some ⟨c + 1, k⟩
  | false, false => none

/-- The shortest decimal among those that round to `m * 2 ^ e` in the format. -/
def shortest (f : FloatFormat) (m : Nat) (e : Int) : Decimal :=
  let narrow := m = 1 <<< (f.precision - 1) && f.minExponent < e
  let (_, den) := scaledRatio 1 (e - 2)
  let at4 (n : Nat) := n <<< (e - 2).toNat
  let lo := at4 (if narrow then 4 * m - 1 else 4 * m - 2)
  let num := at4 (4 * m)
  let hi := at4 (4 * m + 2)
  let top := decade num den
  ((List.range 20).findSome? fun (n : Nat) => neighbour? (m % 2 == 0) lo num hi den (top - n)).getD
    ⟨num, 0⟩

def strip : Nat → Decimal → Decimal
  | 0, d => d
  | fuel + 1, d => if d.digits % 10 = 0 then strip fuel ⟨d.digits / 10, d.exponent + 1⟩ else d

def positional (d : Decimal) : String :=
  let d := strip (digitCount d.digits) d
  let cs := Nat.toDigits 10 d.digits
  let places := (-d.exponent).toNat
  if places = 0 then String.ofList (cs ++ List.replicate d.exponent.toNat '0')
  else
    let cs := List.replicate (places + 1 - cs.length) '0' ++ cs
    String.ofList (cs.take (cs.length - places) ++ '.' :: cs.drop (cs.length - places))

end Decimal

namespace Binary

variable {f : FloatFormat}

/-- The fewest digits that read back, positional, a whole number without a point. -/
def text : Binary f → String
  | nan => "NaN"
  | infinite false => "inf"
  | infinite true => "-inf"
  | finite negative m e =>
    let magnitude := if m = 0 then "0" else (Decimal.shortest f m e).positional
    if negative then "-" ++ magnitude else magnitude

end Binary

end ProtoRules
