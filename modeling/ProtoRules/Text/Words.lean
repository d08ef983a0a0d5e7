import ProtoRules.Text.Case

/-!
Names as rows of words. A name is cut at underscores, hyphens and spaces, where a lower-case letter
meets an upper-case one, where letters meet digits, and before the last letter of a row of capitals
that a small letter follows. Nothing but the separators is lost; empty words stay.
-/

namespace ProtoRules.Text

abbrev Cluster := List Char

def isExtender (c : Char) : Bool :=
  128 ≤ c.toNat &&
    (c.toNat = 0x200D || extenders.contains c.toNat || spacingMarks.contains c.toNat)

def isPrepended (c : Char) : Bool :=
  128 ≤ c.toNat && prepended.contains c.toNat

def isControl (c : Char) : Bool :=
  c.toNat < 32 || (127 ≤ c.toNat && controls.contains c.toNat)

/-- Whether there is no cluster boundary between two characters. -/
def attaches (c d : Char) : Bool :=
  !isControl c && !isControl d && (isExtender d || isPrepended c)

def clusters : List Char → List Cluster
  | [] => []
  | c :: cs =>
    match clusters cs with
    | (m :: ms) :: rest => if attaches c m then (c :: m :: ms) :: rest else [c] :: (m :: ms) :: rest
    | rest => [c] :: rest

namespace Cluster

def isUpper (c : Cluster) : Bool :=
  upper c != lower c && c == upper c

def isLower (c : Cluster) : Bool :=
  upper c != lower c && c == lower c

def isDigit (c : Cluster) : Bool :=
  c.all Char.isDigit

def isSeparator (c : Cluster) : Bool :=
  c == ['_'] || c == ['-'] || c == [' ']

end Cluster

def endsBefore (c : Cluster) : List Cluster → Bool
  | [] => false
  | d :: rest =>
    (c.isLower && (d.isUpper || d.isDigit)) || (c.isUpper && d.isDigit) ||
      (c.isDigit && (d.isLower || d.isUpper)) ||
      (c.isUpper && d.isUpper && rest.head?.any Cluster.isLower)

def extendFirst (c : Cluster) : List (List Cluster) → List (List Cluster)
  | [] => [[c]]
  | w :: ws => (c :: w) :: ws

def wordsOf : List Cluster → List (List Cluster)
  | [] => [[]]
  | c :: cs =>
    if c.isSeparator then [] :: wordsOf cs
    else if endsBefore c cs then [c] :: wordsOf cs
    else extendFirst c (wordsOf cs)

def words (name : String) : List (List Cluster) :=
  wordsOf (clusters name.toList)

def lowerWord (w : List Cluster) : List Char :=
  lower w.flatten

def capitalWord : List Cluster → List Char
  | [] => []
  | c :: w => upper c ++ lower w.flatten

def snake (name : String) : String :=
  String.ofList (['_'].intercalate ((words name).map lowerWord))

def pascal (name : String) : String :=
  String.ofList ((words name).flatMap capitalWord)

/-- Words in a row, the first one in lower case, even if it is empty, and the others capitalised. -/
def camelWords : List (List Cluster) → List Char
  | [] => []
  | w :: ws => lowerWord w ++ ws.flatMap capitalWord

def camel (name : String) : String :=
  String.ofList (camelWords (words name))

end ProtoRules.Text
