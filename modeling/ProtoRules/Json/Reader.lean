import ProtoRules.Json.Number

/-!
Reading JSON text. The reader accepts exactly the JSON grammar; what it cannot represent it marks
as unreadable, so that a consumer that skips the value never notices.
-/

namespace ProtoRules.Json

/-- Number of containers that may enclose a container. -/
def nestingLimit : Nat := 127

def isSpace (c : Char) : Bool :=
  c == ' ' || c == '\n' || c == '\t' || c == '\r'

def skipSpace (cs : List Char) : List Char :=
  cs.dropWhile isSpace

def hexDigit? (c : Char) : Option Nat :=
  if c.isDigit then some (c.toNat - '0'.toNat)
  else if 'a' ≤ c ∧ c ≤ 'f' then some (c.toNat - 'a'.toNat + 10)
  else if 'A' ≤ c ∧ c ≤ 'F' then some (c.toNat - 'A'.toNat + 10)
  else none

def hex4? (a b c d : Char) : Option Nat := do
  return (((← hexDigit? a) * 16 + (← hexDigit? b)) * 16 + (← hexDigit? c)) * 16 + (← hexDigit? d)

def escaped? : Char → Option Char
  | '"' => some '"'
  | '\\' => some '\\'
  | '/' => some '/'
  | 'b' => some '\x08'
  | 'f' => some '\x0c'
  | 'n' => some '\n'
  | 'r' => some '\r'
  | 't' => some '\t'
  | _ => none

inductive Unit16
  | char (c : Char)
  | unit (n : Nat)

def readUnits : List Char → Option (List Unit16 × List Char)
  | '"' :: cs => some ([], cs)
  | '\\' :: 'u' :: a :: b :: c :: d :: cs => do
    let n ← hex4? a b c d
    let (us, rest) ← readUnits cs
    return (.unit n :: us, rest)
  | '\\' :: c :: cs => do
    let e ← escaped? c
    let (us, rest) ← readUnits cs
    return (.char e :: us, rest)
  | c :: cs =>
    if c.toNat < 0x20 then none
    else do
      let (us, rest) ← readUnits cs
      return (.char c :: us, rest)
  | [] => none

/-- The characters of a list of units, unless a surrogate is unpaired. -/
def pairUnits? : List Unit16 → Option (List Char)
  | [] => some []
  | .char c :: us => (pairUnits? us).map (c :: ·)
  | .unit hi :: .unit lo :: us =>
    if 0xD800 ≤ hi ∧ hi < 0xDC00 ∧ 0xDC00 ≤ lo ∧ lo < 0xE000 then
      (pairUnits? us).map (Char.ofNat (0x10000 + (hi - 0xD800) * 0x400 + (lo - 0xDC00)) :: ·)
    else if 0xD800 ≤ hi ∧ hi < 0xE000 then none
    else (pairUnits? (.unit lo :: us)).map (Char.ofNat hi :: ·)
  | .unit n :: us =>
    if 0xD800 ≤ n ∧ n < 0xE000 then none
    else (pairUnits? us).map (Char.ofNat n :: ·)

/-- Reads a text whose opening quote has been read. The text is missing if it has no value. -/
def readText (cs : List Char) : Option (Option String × List Char) := do
  let (units, rest) ← readUnits cs
  return ((pairUnits? units).map String.ofList, rest)

mutual

def readValue : Nat → Nat → List Char → Option (Json × List Char)
  | 0, _, _ => none
  | fuel + 1, level, cs =>
    match skipSpace cs with
    | 'n' :: 'u' :: 'l' :: 'l' :: rest => some (null, rest)
    | 't' :: 'r' :: 'u' :: 'e' :: rest => some (bool true, rest)
    | 'f' :: 'a' :: 'l' :: 's' :: 'e' :: rest => some (bool false, rest)
    | '"' :: rest => do
      let (text, rest) ← readText rest
      return (text.elim unreadable str, rest)
    | '[' :: rest => do
      let (items, rest) ← match skipSpace rest with
        | ']' :: rest => pure ([], rest)
        | _ => readItems fuel (level + 1) rest
      return (if nestingLimit ≤ level then unreadable else arr items, rest)
    | '{' :: rest => do
      let (members, rest) ← match skipSpace rest with
        | '}' :: rest => pure (some [], rest)
        | _ => readMembers fuel (level + 1) rest
      let value := if nestingLimit ≤ level then unreadable else members.elim unreadable obj
      return (value, rest)
    | cs => readNumber cs

def readItems : Nat → Nat → List Char → Option (List Json × List Char)
  | 0, _, _ => none
  | fuel + 1, level, cs => do
    let (item, rest) ← readValue fuel level cs
    match skipSpace rest with
    | ',' :: rest =>
      let (items, rest) ← readItems fuel level rest
      return (item :: items, rest)
    | ']' :: rest => return ([item], rest)
    | _ => none

/-- Reads members up to the closing brace; a key without a value spoils them all. -/
def readMembers : Nat → Nat → List Char → Option (Option (List Member) × List Char)
  | 0, _, _ => none
  | fuel + 1, level, cs =>
    match skipSpace cs with
    | '"' :: rest => do
      let (key, rest) ← readText rest
      match skipSpace rest with
      | ':' :: rest =>
        let (value, rest) ← readValue fuel level rest
        let member := key.map (·, value)
        match skipSpace rest with
        | ',' :: rest =>
          let (members, rest) ← readMembers fuel level rest
          return (member.bind fun m => members.map (m :: ·), rest)
        | '}' :: rest => return (member.map ([·]), rest)
        | _ => none
      | _ => none
    | _ => none

end

def parse (text : String) : Option Json := do
  let cs := text.toList
  let (value, rest) ← readValue (2 * cs.length + 2) 0 cs
  guard (skipSpace rest = [])
  return value

end ProtoRules.Json
