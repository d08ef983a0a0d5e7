import ProtoRules.Emit.RustLexeme

/-!
Readers of lexemes. A reader takes lexemes from the front and gives the tokens that they are written
as again; what comes next is told by signs, which look at lexemes and take none.
-/

namespace ProtoRules.Rust

def reserved : List String :=
  ["_", "abstract", "as", "async", "await", "become", "box", "break", "const", "continue", "crate",
    "do", "dyn", "else", "enum", "extern", "false", "final", "fn", "for", "if", "impl", "in", "let",
    "loop", "macro", "match", "mod", "move", "mut", "override", "priv", "pub", "ref", "return",
    "Self", "self", "static", "struct", "super", "trait", "true", "try", "type", "typeof", "unsafe",
    "unsized", "use", "virtual", "where", "while", "yield"]

inductive Sign
  | op (text : String)
  | word (text : String)
  | name
  | anyWord
  | lifetime
  | literal
  | string
  | wholeNumber
  | group (bracket : Bracket)
  | nothing
deriving DecidableEq, Repr

namespace Sign

/-- Whether lexemes begin with the characters of an operator. All but the last of them have to be
joint. -/
def beginsWithMarks : List Char → List Lexeme → Bool
  | [], _ => false
  | [c], .mark d _ :: _ => c == d
  | c :: cs, .mark d joint :: ls => c == d && joint && beginsWithMarks cs ls
  | _, _ => false

def isNumber (text : String) : Bool :=
  text.toList.head?.any Char.isDigit

def isWholeNumber (text : String) : Bool :=
  isNumber text && (afterFloatDigits? text.toList).isNone

def heads : Sign → List Lexeme → Bool
  | op o, ls => beginsWithMarks o.toList ls
  | word v, .word w :: _ => w == v
  | name, .word w :: _ => !reserved.contains w
  | anyWord, .word _ :: _ => true
  | lifetime, .mark '\'' true :: .word _ :: _ => true
  | literal, .literal _ :: _ => true
  | literal, .word w :: _ => w == "true" || w == "false"
  | literal, .mark '-' _ :: .literal t :: _ => isNumber t
  | string, .literal t :: _ => ['"', 'r'].contains (t.toList.head?.getD ' ')
  | wholeNumber, .literal t :: _ => isWholeNumber t
  | group b, .group c _ :: _ => b == c
  | nothing, [] => true
  | _, _ => false

end Sign

namespace Lexeme

/-- The lexemes behind the first one; a lifetime counts as one. -/
def tailOf : List Lexeme → List Lexeme
  | .mark '\'' true :: .word _ :: ls => ls
  | _ :: ls => ls
  | [] => []

def behind : Nat → List Lexeme → List Lexeme
  | 0, ls => ls
  | n + 1, ls => behind n (tailOf ls)

end Lexeme

abbrev Reader (α : Type) := StateT (List Lexeme) Option α

namespace Reader

def sees (s : Sign) : Reader Bool := do
  return s.heads (← get)

def seesAny (signs : List Sign) : Reader Bool := do
  let ls ← get
  return signs.any (·.heads ls)

def seesBehind (n : Nat) (s : Sign) : Reader Bool := do
  return s.heads (Lexeme.behind n (← get))

def seesAnyBehind (n : Nat) (signs : List Sign) : Reader Bool := do
  let ls := Lexeme.behind n (← get)
  return signs.any (·.heads ls)

def require (condition : Bool) : Reader Unit :=
  if condition then return () else failure

def op (text : String) : Reader Tokens := do
  require (← sees (.op text))
  modify (·.drop text.length)
  return [.op text]

def anyWord : Reader Tokens := do
  match ← get with
  | .word w :: ls =>
    set ls
    return [.word w]
  | _ => failure

def word (text : String) : Reader Tokens := do
  require (← sees (.word text))
  anyWord

def name : Reader Tokens := do
  require (← sees .name)
  anyWord

def lifetime : Reader Tokens := do
  match ← get with
  | .mark '\'' true :: .word w :: ls =>
    set ls
    return [.word ("'" ++ w)]
  | _ => failure

def literal : Reader Tokens := do
  require (← sees .literal)
  match ← get with
  | .mark _ _ :: .literal t :: ls =>
    set ls
    return [.op "-", .literal t]
  | .literal t :: ls =>
    set ls
    return [.literal t]
  | _ => anyWord

def wholeValue? (text : String) : Option Nat :=
  let (base, digits) := match text.toList with
    | '0' :: 'x' :: cs => (16, cs)
    | '0' :: 'o' :: cs => (8, cs)
    | '0' :: 'b' :: cs => (2, cs)
    | cs => (10, cs)
  let digits := digits.filter (· != '_')
  if digits.all fun c => isHexDigit c && hexDigit c < base then
    some (digits.foldl (fun n c => base * n + hexDigit c) 0)
  else none

def indexToken? (text : String) : Option Token :=
  match wholeValue? text with
  | some n => if n < 4294967296 then some (.literal (toString n)) else none
  | none => none

def index : Reader Tokens := do
  require (← sees .wholeNumber)
  match ← get with
  | .literal t :: ls =>
    set ls
    return [← (indexToken? t : Option Token)]
  | _ => failure

def field : Reader Tokens := do
  if ← sees .name then name else index

/-- The body of a group, which has to be read to its end. -/
def within (bracket : Bracket) (body : Reader α) : Reader α := do
  match ← get with
  | .group b inner :: ls =>
    require (b = bracket)
    let (a, rest) ← body inner
    require rest.isEmpty
    set ls
    return a
  | _ => failure

def group (bracket : Bracket) (body : Reader Tokens) : Reader Tokens := do
  return [.group bracket (← within bracket body)]

def anyGroup : Reader Tokens := do
  match ← get with
  | .group b inner :: ls =>
    set ls
    return [.group b (Lexeme.tokens inner)]
  | _ => failure

def verbatim (body : Reader α) : Reader Tokens := do
  let before ← get
  let _ ← body
  return Lexeme.tokens (before.take (before.length - (← get).length))

def row : List (Reader Tokens) → Reader Tokens
  | [] => return []
  | r :: rs => return (← r) ++ (← row rs)

def whenSees (s : Sign) (r : Reader Tokens) : Reader Tokens := do
  if ← sees s then r else return []

def maybeOp (text : String) : Reader Tokens :=
  whenSees (.op text) (op text)

def maybeWord (text : String) : Reader Tokens :=
  whenSees (.word text) (word text)

def whileSeesFrom (s : Sign) (r : Reader Tokens) : Nat → Reader Tokens
  | 0 => failure
  | n + 1 => do
    if ← sees s then return (← r) ++ (← whileSeesFrom s r n) else return []

def whileSees (s : Sign) (r : Reader Tokens) : Reader Tokens := do
  whileSeesFrom s r ((← get).length + 1)

def untilSeesFrom (s : Sign) (r : Reader Tokens) : Nat → Reader Tokens
  | 0 => failure
  | n + 1 => do
    if ← sees s then return [] else return (← r) ++ (← untilSeesFrom s r n)

def untilSees (s : Sign) (r : Reader Tokens) : Reader Tokens := do
  untilSeesFrom s r ((← get).length + 1)

structure Part (α : Type) where
  value : α
  closed : Bool

def partsFrom (stop : Sign) (item : Reader α) : Nat → Reader (List (Part α))
  | 0 => failure
  | n + 1 => do
    if ← sees stop then return []
    let a ← item
    if ← sees stop then return [⟨a, false⟩]
    let _ ← op ","
    return ⟨a, true⟩ :: (← partsFrom stop item n)

def parts (stop : Sign) (item : Reader α) : Reader (List (Part α)) := do
  partsFrom stop item ((← get).length + 1)

def written (ps : List (Part Tokens)) : Tokens :=
  ps.flatMap fun p => p.value ++ if p.closed then [.op ","] else []

def commaRow (stop : Sign) (item : Reader Tokens) : Reader Tokens :=
  return written (← parts stop item)

def commaGroup (bracket : Bracket) (item : Reader Tokens) : Reader Tokens :=
  group bracket (commaRow .nothing item)

/-- Parts of which some are moved to the front. Of the others in the row, each has a comma. -/
def writtenFirst (isFirst : α → Bool) (text : α → Tokens) (ps : List (Part α)) : Tokens :=
  let ordered := ps.filter (isFirst ·.value) ++ ps.filter (!isFirst ·.value)
  written (ordered.dropLast.map (fun p => ⟨text p.value, true⟩) ++
    ordered.getLast?.toList.map fun p => ⟨text p.value, p.closed⟩)

end Reader

end ProtoRules.Rust
