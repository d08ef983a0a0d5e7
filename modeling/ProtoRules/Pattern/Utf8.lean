import ProtoRules.Text.Ranges

/-!
Sets of characters as rows of byte ranges: a row stands for the characters whose encoding has a byte
from each of its ranges in turn.
-/

namespace ProtoRules.Pattern

open Text (Ranges)

/-- Byte ranges in a row, from the first byte of an encoding to its last. -/
abbrev ByteRow := List (Nat × Nat)

namespace ByteRow

def encode (n : Nat) : List Nat :=
  if n < 0x80 then [n]
  else if n < 0x800 then [0xC0 + n / 64, 0x80 + n % 64]
  else if n < 0x10000 then [0xE0 + n / 4096, 0x80 + n / 64 % 64, 0x80 + n % 64]
  else [0xF0 + n / 262144, 0x80 + n / 4096 % 64, 0x80 + n / 64 % 64, 0x80 + n % 64]

def lastOfLength : List Nat :=
  [0x7F, 0x7FF, 0xFFFF]

/-- Where a range is cut in two so that encodings differ in their last `k` bytes alone or begin and
end with full blocks of them: the last number of the first half. -/
def blockCut? (first last : Nat) : Option Nat :=
  [64, 4096, 262144].findSome? fun block =>
    if first / block = last / block then none
    else if first % block ≠ 0 then some (first / block * block + block - 1)
    else if last % block ≠ block - 1 then some (last / block * block - 1)
    else none

/-- Where a range is cut in two, at the surrogates, between lengths of encodings, or else between
blocks: the last number of the first half and the first one of the second. -/
def cut? (first last : Nat) : Option (Nat × Nat) :=
  if first < 0xE000 ∧ 0xD7FF < last then some (0xD7FF, 0xE000)
  else
    match lastOfLength.find? fun n => first ≤ n && n < last with
    | some n => some (n, n + 1)
    | none =>
      if last < 0x80 then none
      else (blockCut? first last).map fun n => (n, n + 1)

def ofRange : Nat → Nat → Nat → List ByteRow
  | 0, _, _ => []
  | fuel + 1, first, last =>
    if last < first then []
    else
      match cut? first last with
      | some (a, b) => ofRange fuel first a ++ ofRange fuel b last
      | none => [(encode first).zip (encode last)]

/-- The rows for a set, in order. A range has one cut for the surrogates, three between lengths, and
at most two for each of three kinds of blocks in every part. -/
def ofMembers (members : Ranges) : List ByteRow :=
  members.flatMap fun (first, last) => ofRange 16 first last

end ByteRow

end ProtoRules.Pattern
