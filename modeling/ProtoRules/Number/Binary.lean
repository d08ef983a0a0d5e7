/-!
Binary floating-point numbers, kept as sign, significand and exponent. Every operation is exact
arithmetic on natural numbers followed by one rounding to the nearest representable value, ties to
the even significand.
-/

namespace ProtoRules

structure FloatFormat where
  precision : Nat
  minExponent : Int
  maxExponent : Int
deriving DecidableEq, Repr

namespace FloatFormat

def single : FloatFormat := ⟨24, -149, 104⟩

def double : FloatFormat := ⟨53, -1074, 971⟩

end FloatFormat

/-- A number of a binary format; a finite one has the magnitude `significand * 2 ^ exponent`. -/
inductive Binary (f : FloatFormat)
  | nan
  | infinite (negative : Bool)
  | finite (negative : Bool) (significand : Nat) (exponent : Int)
deriving DecidableEq, Repr

/-- The quotient rounded to the nearest integer, a tie to the even one. -/
def roundDiv (num den : Nat) : Nat :=
  let q := num / den
  let r := num % den
  if den < 2 * r || (2 * r == den && q % 2 == 1) then q + 1 else q

def powTen (n : Nat) : Nat :=
  Nat.pow 10 n

def scaledRatio (n : Nat) (e : Int) : Nat × Nat :=
  (n <<< e.toNat, 1 <<< (-e).toNat)

namespace Binary

variable {f : FloatFormat}

def zero (negative : Bool) : Binary f :=
  finite negative 0 f.minExponent

def lastBit (f : FloatFormat) (num den : Nat) : Int :=
  let e : Int := max f.minExponent ((num.log2 : Int) - den.log2 - f.precision)
  if (num <<< (-e).toNat) / (den <<< e.toNat) < 1 <<< f.precision then e else e + 1

/-- The representable number nearest to `num / den`, infinite beyond the largest finite one. -/
def ofRatio (f : FloatFormat) (negative : Bool) (num den : Nat) : Binary f :=
  if num = 0 then zero negative
  else
    let e := lastBit f num den
    let q := roundDiv (num <<< (-e).toNat) (den <<< e.toNat)
    let (q, e) := if q = 1 <<< f.precision then (1 <<< (f.precision - 1), e + 1) else (q, e)
    if f.maxExponent < e then infinite negative else finite negative q e

def ofInt (f : FloatFormat) (n : Int) : Binary f :=
  ofRatio f (n < 0) n.natAbs 1

def convert (g : FloatFormat) : Binary f → Binary g
  | nan => nan
  | infinite negative => infinite negative
  | finite negative m e =>
    let (num, den) := scaledRatio m e
    ofRatio g negative num den

def isFinite : Binary f → Bool
  | finite .. => true
  | _ => false

def units (f : FloatFormat) (negative : Bool) (m : Nat) (e : Int) : Int :=
  let n : Nat := m <<< (e - f.minExponent).toNat
  if negative then -n else n

/-- Numerical equality: the zeros are equal, and nothing equals NaN. -/
def same : Binary f → Binary f → Bool
  | infinite a, infinite b => a == b
  | finite a m e, finite b n d => units f a m e == units f b n d
  | _, _ => false

/-- Numerical order; NaN is below nothing and above nothing. -/
def below : Binary f → Binary f → Bool
  | infinite a, infinite b => a && !b
  | infinite a, finite .. => a
  | finite .., infinite b => !b
  | finite a m e, finite b n d => units f a m e < units f b n d
  | _, _ => false

def ofDecimal (f : FloatFormat) (negative : Bool) (significand : Nat) (exponent : Int) : Binary f :=
  ofRatio f negative (significand * powTen exponent.toNat) (powTen (-exponent).toNat)

end Binary

end ProtoRules
