import ProtoRules.Number.Word

/-!
Literals of durations and of points in time, as seconds and nanoseconds. A duration's two parts
share their sign; a timestamp counts nanoseconds upwards from its second.
-/

namespace ProtoRules

def nanosPerSecond : Int := 1000000000

/-- The greatest magnitude of a duration in seconds: ten thousand years. -/
def maxDurationSeconds : Int := 315576000000

def minTimestampSeconds : Int := -62135596800

def maxTimestampSeconds : Int := 253402300799

inductive TemporalError
  | nanosOutOfRange (nanos : Int)
  | secondsOutOfRange (seconds : Int)
  | signMismatch
deriving DecidableEq, Repr

def TemporalError.message : TemporalError → String
  | nanosOutOfRange n => s!"nanos ({n}) out of range"
  | secondsOutOfRange n => s!"seconds ({n}) out of range"
  | signMismatch => "seconds and nanos must share a sign"

structure DurationLiteral where
  seconds : Word .int64 := 0
  nanos : Word .int32 := 0
deriving DecidableEq, Repr

namespace DurationLiteral

def totalNanos (d : DurationLiteral) : Except TemporalError Int :=
  let s := d.seconds.val
  let n := d.nanos.val
  if maxDurationSeconds < s.natAbs then .error (.secondsOutOfRange s)
  else if nanosPerSecond ≤ n.natAbs then .error (.nanosOutOfRange n)
  else if (0 < s ∧ n < 0) ∨ (s < 0 ∧ 0 < n) then .error .signMismatch
  else .ok (s * nanosPerSecond + n)

def text (d : DurationLiteral) : String :=
  if d.nanos.val = 0 then s!"{d.seconds.val}s" else s!"{d.seconds.val}s{d.nanos.val}ns"

end DurationLiteral

structure TimestampLiteral where
  seconds : Word .int64 := 0
  nanos : Word .int32 := 0
deriving DecidableEq, Repr

structure CivilDate where
  year : Int
  month : Int
  day : Int
deriving DecidableEq, Repr

/-- The date that lies the given number of days after 1 January 1970. Years are counted from March,
in eras of 400 years, so that the leap day ends its year. -/
def CivilDate.ofDays (days : Int) : CivilDate :=
  let z := days + 719468
  let era := z / 146097
  let dayOfEra := z % 146097
  let yearOfEra := (dayOfEra - dayOfEra / 1460 + dayOfEra / 36524 - dayOfEra / 146096) / 365
  let dayOfYear := dayOfEra - (365 * yearOfEra + yearOfEra / 4 - yearOfEra / 100)
  let monthFromMarch := (5 * dayOfYear + 2) / 153
  let day := dayOfYear - (153 * monthFromMarch + 2) / 5 + 1
  let month := if monthFromMarch < 10 then monthFromMarch + 3 else monthFromMarch - 9
  ⟨yearOfEra + era * 400 + (if month ≤ 2 then 1 else 0), month, day⟩

def padded (width : Nat) (n : Int) : String :=
  let digits := Nat.toDigits 10 n.toNat
  String.ofList (List.replicate (width - digits.length) '0' ++ digits)

namespace TimestampLiteral

def unixNanos (t : TimestampLiteral) : Except TemporalError Int :=
  let s := t.seconds.val
  let n := t.nanos.val
  if s < minTimestampSeconds ∨ maxTimestampSeconds < s then .error (.secondsOutOfRange s)
  else if n < 0 ∨ nanosPerSecond ≤ n then .error (.nanosOutOfRange n)
  else .ok (s * nanosPerSecond + n)

/-- Decimals of a second, without trailing zeros; nothing for a whole second. -/
def fraction (nanos : Int) : String :=
  if nanos = 0 then ""
  else
    let digits := (padded 9 nanos).toList
    "." ++ String.ofList (digits.reverse.dropWhile (· == '0')).reverse

/-- Date and time in UTC; the two parts as they stand if the literal is not valid. -/
def text (t : TimestampLiteral) : String :=
  match t.unixNanos with
  | .error _ => s!"{t.seconds.val}s{t.nanos.val}ns"
  | .ok _ =>
    let second := t.seconds.val % 86400
    let date := CivilDate.ofDays (t.seconds.val / 86400)
    padded 4 date.year ++ "-" ++ padded 2 date.month ++ "-" ++ padded 2 date.day ++ "T" ++
      padded 2 (second / 3600) ++ ":" ++ padded 2 (second / 60 % 60) ++ ":" ++
      padded 2 (second % 60) ++ fraction t.nanos.val ++ "Z"

end TimestampLiteral

end ProtoRules
