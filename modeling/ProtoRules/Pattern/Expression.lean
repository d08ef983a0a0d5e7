import ProtoRules.Text.Ranges

/-!
Regular expressions in a simple form, free of flags and of spelling. Adjacent texts are one text, a
choice between characters is a set, and what the branches of a choice begin with is written once.
-/

namespace ProtoRules.Pattern

open Text (Ranges)

/-- The edges of words: both, none, the beginning, the end, and what is on one side of these two. -/
inductive WordEdge
  | any
  | none
  | start
  | stop
  | startHalf
  | stopHalf
deriving DecidableEq, Repr

inductive Look
  | textStart
  | textEnd
  | lineStart (crlf : Bool)
  | lineEnd (crlf : Bool)
  | word (edge : WordEdge) (unicode : Bool)
deriving DecidableEq, Repr

inductive Expression
  | empty
  | literal (bytes : List UInt8)
  /-- A set of characters, or of bytes; the empty set matches nothing. -/
  | set (isBytes : Bool) (members : Ranges)
  | look (kind : Look)
  | repetition (least : Nat) (most : Option Nat) (greedy : Bool) (body : Expression)
  | capture (index : Nat) (body : Expression)
  | concat (parts : List Expression)
  | choice (branches : List Expression)
deriving Repr

namespace Expression

mutual

def same : Expression → Expression → Bool
  | empty, empty => true
  | literal a, literal b => a == b
  | set a x, set b y => a == b && x == y
  | look a, look b => a == b
  | repetition a b c x, repetition d e f y => a == d && b == e && c == f && same x y
  | capture a x, capture b y => a == b && same x y
  | concat xs, concat ys => sameAll xs ys
  | choice xs, choice ys => sameAll xs ys
  | _, _ => false

def sameAll : List Expression → List Expression → Bool
  | [], [] => true
  | x :: xs, y :: ys => same x y && sameAll xs ys
  | _, _ => false

end

mutual

def size : Expression → Nat
  | repetition _ _ _ body => body.size + 1
  | capture _ body => body.size + 1
  | concat parts => sizeAll parts + 1
  | choice branches => sizeAll branches + 1
  | _ => 1

def sizeAll : List Expression → Nat
  | [] => 0
  | e :: es => e.size + sizeAll es

end

def encodedLength (n : Nat) : Nat :=
  if n < 0x80 then 1 else if n < 0x800 then 2 else if n < 0x10000 then 3 else 4

mutual

/-- The length of the shortest match in bytes, `none` if nothing matches. -/
def minLength? : Expression → Option Nat
  | empty => some 0
  | literal bytes => some bytes.length
  | set _ members => members.head?.map fun r => encodedLength r.1
  | look _ => some 0
  | repetition least _ _ body => body.minLength?.map (· * least)
  | capture _ body => body.minLength?
  | concat parts => minLengthSum? parts
  | choice branches => minLengthLeast? branches

def minLengthSum? : List Expression → Option Nat
  | [] => some 0
  | e :: es => do return (← e.minLength?) + (← minLengthSum? es)

def minLengthLeast? : List Expression → Option Nat
  | [] => none
  | [e] => e.minLength?
  | e :: es => do return min (← e.minLength?) (← minLengthLeast? es)

end

mutual

/-- The length of the longest match in bytes, `none` if there is no bound or nothing matches. -/
def maxLength? : Expression → Option Nat
  | empty => some 0
  | literal bytes => some bytes.length
  | set _ members => members.getLast?.map fun r => encodedLength r.2
  | look _ => some 0
  | repetition _ most _ body => do return (← body.maxLength?) * (← most)
  | capture _ body => body.maxLength?
  | concat parts => maxLengthSum? parts
  | choice branches => maxLengthGreatest? branches

def maxLengthSum? : List Expression → Option Nat
  | [] => some 0
  | e :: es => do return (← e.maxLength?) + (← maxLengthSum? es)

def maxLengthGreatest? : List Expression → Option Nat
  | [] => none
  | [e] => e.maxLength?
  | e :: es => do return max (← e.maxLength?) (← maxLengthGreatest? es)

end

def isAlwaysEmpty (e : Expression) : Bool :=
  e.maxLength? == some 0

mutual

/-- Whether a condition holds at the beginning of every match. -/
def beginsWith (kind : Look) : Expression → Bool
  | look other => kind == other
  | repetition least _ _ body => 0 < least && body.beginsWith kind
  | capture _ body => body.beginsWith kind
  | concat parts => someBeginsWith kind parts
  | choice branches => allBeginWith kind branches
  | _ => false

/-- The same for a row, in which what matches the empty text alone is no beginning. -/
def someBeginsWith (kind : Look) : List Expression → Bool
  | [] => false
  | e :: es => e.beginsWith kind || (e.isAlwaysEmpty && someBeginsWith kind es)

def allBeginWith (kind : Look) : List Expression → Bool
  | [] => true
  | e :: es => e.beginsWith kind && allBeginWith kind es

end

mutual

def endsWith (kind : Look) : Expression → Bool
  | look other => kind == other
  | repetition least _ _ body => 0 < least && body.endsWith kind
  | capture _ body => body.endsWith kind
  | concat parts => someEndsWith kind parts
  | choice branches => allEndWith kind branches
  | _ => false

def someEndsWith (kind : Look) : List Expression → Bool
  | [] => false
  | e :: es => (es.all isAlwaysEmpty && e.endsWith kind) || someEndsWith kind es

def allEndWith (kind : Look) : List Expression → Bool
  | [] => true
  | e :: es => e.endsWith kind && allEndWith kind es

end

def fail : Expression :=
  set true []

def ofBytes (bytes : List UInt8) : Expression :=
  if bytes.isEmpty then empty else literal bytes

def surrogates : Ranges :=
  [(0xD800, 0xDFFF)]

/-- A set of characters in its only form: surrogates, which are no characters, count as members if
they close a gap between members. -/
def characters (members : Ranges) : Ranges :=
  if members.contains 0xD7FF && members.contains 0xE000 then members.union surrogates
  else members.minus surrogates

def ofSet (isBytes : Bool) (members : Ranges) : Expression :=
  match if isBytes then members else characters members with
  | [] => fail
  | [(a, b)] =>
    if a = b then literal (String.utf8EncodeChar (Char.ofNat a)) else set isBytes members
  | members => set isBytes members

/-- A repetition. What matches the empty text alone need not be repeated. -/
def repeated (least : Nat) (most : Option Nat) (greedy : Bool) (body : Expression) : Expression :=
  let (least, most) :=
    if body.isAlwaysEmpty then (min least 1, some ((most.map (min · 1)).getD 1)) else (least, most)
  if least = 0 ∧ most = some 0 then empty
  else if least = 1 ∧ most = some 1 then body
  else repetition least most greedy body

def flatten : List Expression → List Expression
  | [] => []
  | concat parts :: es => parts ++ flatten es
  | empty :: es => flatten es
  | e :: es => e :: flatten es

def joinLiterals : List Expression → List Expression
  | [] => []
  | literal a :: es =>
    match joinLiterals es with
    | literal b :: rest => literal (a ++ b) :: rest
    | rest => literal a :: rest
  | e :: es => e :: joinLiterals es

def row (parts : List Expression) : Expression :=
  match joinLiterals (flatten parts) with
  | [] => empty
  | [e] => e
  | parts => concat parts

def singleChar? : Expression → Option Char
  | literal bytes =>
    match String.fromUTF8? ⟨bytes.toArray⟩ with
    | some s =>
      match s.toList with
      | [c] => some c
      | _ => none
    | none => none
  | _ => none

def members? : Expression → Option Ranges
  | set false members => some members
  | set true members =>
    if members.all fun r => r.2 < 128 then some members else none
  | _ => none

def parts? : Expression → Option (List Expression)
  | concat parts => some parts
  | _ => none

def commonLength : List Expression → List Expression → Nat
  | x :: xs, y :: ys => if same x y then commonLength xs ys + 1 else 0
  | _, _ => 0

def flattenChoice : List Expression → List Expression
  | [] => []
  | choice branches :: es => branches ++ flattenChoice es
  | e :: es => e :: flattenChoice es

def choiceFrom : Nat → List Expression → Expression
  | fuel, branches =>
    match flattenChoice branches with
    | [] => fail
    | [e] => e
    | first :: rest =>
      let all := first :: rest
      match all.mapM singleChar? with
      | some chars => ofSet false (Ranges.ofList (chars.map fun c => (c.toNat, c.toNat)))
      | none =>
        match all.mapM members? with
        | some sets => ofSet false (Ranges.unions sets)
        | none =>
          match fuel, first.parts?, rest.mapM parts? with
          | fuel + 1, some row₁, some rows =>
            let n := (rows.map (commonLength row₁)).foldl min row₁.length
            if n = 0 then choice all
            else
              row (row₁.take n ++ [choiceFrom fuel ((row₁ :: rows).map fun r => row (r.drop n))])
          | _, _, _ => choice all

def oneOf (branches : List Expression) : Expression :=
  choiceFrom (sizeAll branches) branches

end Expression

end ProtoRules.Pattern
