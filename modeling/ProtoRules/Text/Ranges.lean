/-!
Sets of numbers, which are code points for the most part, given by ranges. The ranges of a set are
in order, and neither overlap nor touch, so that equal sets are equal lists.
-/

namespace ProtoRules.Text

/-- Ranges from a first to a last number, both included. -/
abbrev Ranges := List (Nat × Nat)

namespace Ranges

def contains (rs : Ranges) (n : Nat) : Bool :=
  rs.any fun r => r.1 ≤ n && n ≤ r.2

/-- A range and those behind it, of which the ones that overlap or touch are made one. -/
def joinFrom (first : Nat × Nat) : List (Nat × Nat) → Ranges
  | [] => [first]
  | r :: rs =>
    if r.1 ≤ first.2 + 1 then joinFrom (first.1, max first.2 r.2) rs
    else first :: joinFrom r rs

def join : List (Nat × Nat) → Ranges
  | [] => []
  | r :: rs => joinFrom r rs

def insert (r : Nat × Nat) : List (Nat × Nat) → List (Nat × Nat)
  | [] => [r]
  | s :: rs => if r.1 ≤ s.1 then r :: s :: rs else s :: insert r rs

def ofList (rs : List (Nat × Nat)) : Ranges :=
  join (rs.foldr insert [])

def union (a b : Ranges) : Ranges :=
  join (a.foldr insert b)

def gaps (first last : Nat) : Ranges → Ranges
  | [] => if first ≤ last then [(first, last)] else []
  | (a, b) :: rs =>
    if first < a then (first, a - 1) :: gaps (b + 1) last rs else gaps (b + 1) last rs

def greatest : Nat := 0x10FFFF

def complement (rs : Ranges) : Ranges :=
  gaps 0 greatest rs

def inter (a b : Ranges) : Ranges :=
  complement (union (complement a) (complement b))

def minus (a b : Ranges) : Ranges :=
  complement (union (complement a) b)

def symmetricDifference (a b : Ranges) : Ranges :=
  minus (union a b) (inter a b)

def unions (sets : List Ranges) : Ranges :=
  ofList sets.flatten

def wordsOf (text : String) : List (List Char) :=
  go [] text.toList
where
  go : List Char → List Char → List (List Char)
    | [], [] => []
    | word, [] => [word.reverse]
    | word, c :: cs =>
      if c.isWhitespace then
        match word with
        | [] => go [] cs
        | word => word.reverse :: go [] cs
      else go (c :: word) cs

def numberOf (digits : List Char) : Nat :=
  digits.foldl (fun n c => n * 10 + (c.toNat - '0'.toNat)) 0

/-- The set given by the lengths of the stretches outside and inside it, in turn. -/
def ofLengths (start : Nat) : List Nat → Ranges
  | outside :: inside :: rest =>
    (start + outside, start + outside + inside - 1) :: ofLengths (start + outside + inside) rest
  | _ => []

def ofText (text : String) : Ranges :=
  ofLengths 0 ((wordsOf text).map numberOf)

abbrev Labelled := List (String × Nat × Nat)

def labelledFrom (start : Nat) : List (List Char) → Labelled
  | [] => []
  | word :: rest =>
    let (label, digits) := word.span Char.isAlpha
    let length := numberOf digits
    (String.ofList label, start, start + length - 1) :: labelledFrom (start + length) rest

def labelled (text : String) : Labelled :=
  labelledFrom 0 (wordsOf text)

def select (table : Labelled) (wanted : String → Bool) : Ranges :=
  join ((table.filter fun (label, _) => wanted label).map (·.2))

end Ranges

end ProtoRules.Text
