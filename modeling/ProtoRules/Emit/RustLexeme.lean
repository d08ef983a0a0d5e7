import ProtoRules.Emit.RustLiteral
import ProtoRules.Text.Blank

/-!
Cutting Rust text into lexemes. A lexeme is a word, a literal, one character of an operator, or a
group between brackets; comments are left out, except those that document something, which are
attributes.
-/

namespace ProtoRules.Rust

def isIdentifierStart (c : Char) : Bool :=
  c == '_' || c.isAlpha || (128 ≤ c.toNat && Text.identifierStarts.contains c.toNat)

def isIdentifierTail (c : Char) : Bool :=
  isIdentifierStart c || c.isDigit || (128 ≤ c.toNat && Text.identifierTails.contains c.toNat)

def isIdentifier : List Char → Bool
  | [] => false
  | c :: cs => isIdentifierStart c && cs.all isIdentifierTail

/-- The words that cannot be written as raw identifiers. -/
def isNeverRaw (name : String) : Bool :=
  ["_", "super", "self", "Self", "crate"].contains name

def afterPlainName? : List Char → Option (List Char)
  | c :: cs => if isIdentifierStart c then some (cs.dropWhile isIdentifierTail) else none
  | [] => none

def takePlainName? : List Char → Option (String × List Char)
  | c :: cs =>
    if isIdentifierStart c then
      let (tail, rest) := cs.span isIdentifierTail
      some (String.ofList (c :: tail), rest)
    else none
  | [] => none

def takeName? : List Char → Option (String × List Char)
  | 'r' :: '#' :: cs => do
    let (name, rest) ← takePlainName? cs
    if isNeverRaw name then none else some ("r#" ++ name, rest)
  | cs => takePlainName? cs

inductive Lexeme
  | word (text : String)
  /-- A character of an operator; joint if the next one follows at once. -/
  | mark (char : Char) (joint : Bool)
  | literal (text : String)
  | group (bracket : Bracket) (body : List Lexeme)
deriving Repr

namespace Lexeme

mutual

def size : Lexeme → Nat
  | group _ body => sizeAll body + 1
  | _ => 1

def sizeAll : List Lexeme → Nat
  | [] => 0
  | l :: ls => l.size + sizeAll ls

end

def glue (text : String) : Tokens → Tokens
  | [] => [.op text]
  | .word w :: ts => .word (text ++ w) :: ts
  | .op w :: ts => .op (text ++ w) :: ts
  | .literal w :: ts => .literal (text ++ w) :: ts
  | ts => .op text :: ts

mutual

def cons (l : Lexeme) (ts : Tokens) : Tokens :=
  match l with
  | word text => .word text :: ts
  | mark c true => glue (String.ofList [c]) ts
  | mark c false => .op (String.ofList [c]) :: ts
  | literal text => .literal text :: ts
  | group bracket body => .group bracket (tokens body) :: ts

def tokens : List Lexeme → Tokens
  | [] => []
  | l :: ls => l.cons (tokens ls)

end

end Lexeme

inductive Quoted
  | text
  | bytes
  | terminated
deriving DecidableEq, Repr

def isHexDigit (c : Char) : Bool :=
  c.isDigit || ('a' ≤ c && c ≤ 'f') || ('A' ≤ c && c ≤ 'F')

def hexDigit (c : Char) : Nat :=
  if c.isDigit then c.toNat - '0'.toNat else c.toLower.toNat - 'a'.toNat + 10

def takeBracedCode? : Nat → Nat → List Char → Option (Nat × List Char)
  | digits, value, c :: cs =>
    if isHexDigit c then
      if digits = 6 then none else takeBracedCode? (digits + 1) (value * 16 + hexDigit c) cs
    else if digits = 0 then none
    else if c = '_' then takeBracedCode? digits value cs
    else if c = '}' then
      if value < 0xD800 ∨ (0xDFFF < value ∧ value < 0x110000) then some (value, cs) else none
    else none
  | _, _, [] => none

/-- The text behind what a backslash with a letter stands for in a kind of literal. -/
def afterEscape? (kind : Quoted) : List Char → Option (List Char)
  | 'x' :: a :: b :: cs =>
    if !isHexDigit a || !isHexDigit b then none
    else
      match kind with
      | .text => if '0' ≤ a ∧ a ≤ '7' then some cs else none
      | .bytes => some cs
      | .terminated => if a = '0' ∧ b = '0' then none else some cs
  | 'u' :: '{' :: cs =>
    match kind, takeBracedCode? 0 0 cs with
    | .text, some (_, rest) => some rest
    | .terminated, some (value, rest) => if value = 0 then none else some rest
    | _, _ => none
  | '0' :: cs => if kind = .terminated then none else some cs
  | c :: cs => if ['n', 'r', 't', '\\', '\'', '"'].contains c then some cs else none
  | [] => none

/-- The text behind the white space that a backslash at the end of a line leaves out. A carriage
return stands in front of a line feed alone. -/
def afterLineEnd? : List Char → Option (List Char)
  | '\r' :: '\n' :: cs => afterLineEnd? cs
  | '\r' :: _ => none
  | [] => none
  | c :: cs => if c = ' ' ∨ c = '\t' ∨ c = '\n' then afterLineEnd? cs else some (c :: cs)

def afterSuffix (cs : List Char) : List Char :=
  (afterPlainName? cs).getD cs

def mayHold (kind : Quoted) (c : Char) : Bool :=
  match kind with
  | .text => true
  | .bytes => c.toNat < 128
  | .terminated => c.toNat ≠ 0

def afterString? (kind : Quoted) : Nat → List Char → Option (List Char)
  | 0, _ => none
  | fuel + 1, cs =>
    match cs with
    | '"' :: rest => some (afterSuffix rest)
    | '\r' :: '\n' :: rest => afterString? kind fuel rest
    | '\r' :: _ => none
    | '\\' :: '\n' :: rest => (afterLineEnd? rest).bind (afterString? kind fuel)
    | '\\' :: '\r' :: rest => (afterLineEnd? ('\r' :: rest)).bind (afterString? kind fuel)
    | '\\' :: rest => (afterEscape? kind rest).bind (afterString? kind fuel)
    | c :: rest => if mayHold kind c then afterString? kind fuel rest else none
    | [] => none

def afterRawBody? (kind : Quoted) (signs : List Char) : List Char → Option (List Char)
  | '"' :: cs =>
    if signs.isPrefixOf cs then some (afterSuffix (cs.drop signs.length))
    else afterRawBody? kind signs cs
  | '\r' :: '\n' :: cs => afterRawBody? kind signs cs
  | '\r' :: _ => none
  | c :: cs => if mayHold kind c then afterRawBody? kind signs cs else none
  | [] => none

def afterRaw? (kind : Quoted) (cs : List Char) : Option (List Char) :=
  match cs.span (· == '#') with
  | (signs, '"' :: body) => if signs.length ≤ 255 then afterRawBody? kind signs body else none
  | _ => none

def afterChar? (kind : Quoted) (cs : List Char) : Option (List Char) := do
  let rest ← match cs with
    | '\\' :: rest => afterEscape? kind rest
    | c :: rest => if mayHold kind c then some rest else none
    | [] => none
  match rest with
  | '\'' :: rest => some (afterSuffix rest)
  | _ => none

/-- The digits of a whole number in a base: a digit beyond the base is no digit of it, a letter
beyond it ends it. -/
def afterDigits? (base : Nat) : Bool → List Char → Option (List Char)
  | empty, c :: cs =>
    if c.isDigit then if hexDigit c < base then afterDigits? base false cs else none
    else if isHexDigit c && hexDigit c < base then afterDigits? base false cs
    else if c = '_' then
      if empty && base = 10 then none else afterDigits? base empty cs
    else if empty then none
    else some (c :: cs)
  | empty, [] => if empty then none else some []

/-- The text behind a suffix, behind which no identifier goes on. -/
def afterNumberSuffix? (cs : List Char) : Option (List Char) :=
  let rest := afterSuffix cs
  if rest.head?.any isIdentifierTail then none else some rest

def afterInteger? (cs : List Char) : Option (List Char) := do
  let rest ← match cs with
    | '0' :: 'x' :: rest => afterDigits? 16 true rest
    | '0' :: 'o' :: rest => afterDigits? 8 true rest
    | '0' :: 'b' :: rest => afterDigits? 2 true rest
    | cs => afterDigits? 10 true cs
  afterNumberSuffix? rest

def isDigitOrBlank (c : Char) : Bool :=
  c.isDigit || c == '_'

def afterExponent? (cs : List Char) : Option (List Char) :=
  let cs := cs.dropWhile (· == '_')
  let cs := match cs with
    | '+' :: rest => rest
    | '-' :: rest => rest
    | cs => cs
  let (digits, rest) := cs.span isDigitOrBlank
  if digits.any Char.isDigit then some rest else none

/-- The digits of a number with a point, or an exponent, or both. An exponent without digits
behind a point is no part of the number. -/
def afterFloatDigits? (cs : List Char) : Option (List Char) :=
  if !cs.head?.any Char.isDigit then none
  else
    match cs.dropWhile isDigitOrBlank with
    | '.' :: rest =>
      if rest.head?.any fun c => c == '.' || isIdentifierStart c then none
      else
        match rest.dropWhile isDigitOrBlank with
        | 'e' :: tail => some ((afterExponent? tail).getD ('e' :: tail))
        | 'E' :: tail => some ((afterExponent? tail).getD ('E' :: tail))
        | rest => some rest
    | 'e' :: tail => afterExponent? tail
    | 'E' :: tail => afterExponent? tail
    | _ => none

def afterFloat? (cs : List Char) : Option (List Char) :=
  (afterFloatDigits? cs).bind afterNumberSuffix?

def afterLiteral? (cs : List Char) : Option (List Char) :=
  match cs with
  | '"' :: rest => afterString? .text cs.length rest
  | 'b' :: '"' :: rest => afterString? .bytes cs.length rest
  | 'c' :: '"' :: rest => afterString? .terminated cs.length rest
  | 'b' :: 'r' :: rest => afterRaw? .bytes rest
  | 'c' :: 'r' :: rest => afterRaw? .terminated rest
  | 'r' :: rest => afterRaw? .text rest
  | 'b' :: '\'' :: rest => afterChar? .bytes rest
  | '\'' :: rest => afterChar? .text rest
  | cs => afterFloat? cs <|> afterInteger? cs

def afterComment : Nat → List Char → Option (List Char)
  | 0, cs => some cs
  | depth + 1, '*' :: '/' :: cs => afterComment depth cs
  | depth + 1, '/' :: '*' :: cs => afterComment (depth + 2) cs
  | depth + 1, _ :: cs => afterComment (depth + 1) cs
  | _ + 1, [] => none
termination_by _ cs => cs.length

def restOfLine : List Char → List Char × List Char
  | [] => ([], [])
  | '\n' :: cs => ([], '\n' :: cs)
  | '\r' :: '\n' :: cs => ([], '\n' :: cs)
  | c :: cs =>
    let (line, rest) := restOfLine cs
    (c :: line, rest)

def isSpace (c : Char) : Bool :=
  Text.isBlank c || c.toNat == 0x200E || c.toNat == 0x200F

inductive Comment
  | plain
  | doc (inner : Bool) (text : List Char)

def bodyOf (cs rest : List Char) : List Char :=
  cs.take (cs.length - rest.length - 2)

/-- Reads a comment. A third mark makes it documentation, a fourth one plain again. -/
def readComment? (cs : List Char) : Option (Comment × List Char) :=
  match cs with
  | '/' :: '/' :: '!' :: cs =>
    let (line, rest) := restOfLine cs
    some (.doc true line, rest)
  | '/' :: '/' :: '/' :: '/' :: cs => some (.plain, (restOfLine cs).2)
  | '/' :: '/' :: '/' :: cs =>
    let (line, rest) := restOfLine cs
    some (.doc false line, rest)
  | '/' :: '/' :: cs => some (.plain, (restOfLine cs).2)
  | '/' :: '*' :: '!' :: cs =>
    (afterComment 1 cs).map fun rest => (.doc true (bodyOf cs rest), rest)
  | '/' :: '*' :: '*' :: '/' :: cs => some (.plain, cs)
  | '/' :: '*' :: '*' :: '*' :: cs => (afterComment 1 ('*' :: '*' :: cs)).map (.plain, ·)
  | '/' :: '*' :: '*' :: cs =>
    (afterComment 1 cs).map fun rest => (.doc false (bodyOf cs rest), rest)
  | '/' :: '*' :: cs => (afterComment 1 cs).map (.plain, ·)
  | _ => none

def hasWholeLineEnds : List Char → Bool
  | '\r' :: '\n' :: cs => hasWholeLineEnds cs
  | '\r' :: _ => false
  | _ :: cs => hasWholeLineEnds cs
  | [] => true

def docLexemes (inner : Bool) (text : List Char) : List Lexeme :=
  [.mark '#' false] ++ (if inner then [.mark '!' false] else []) ++
    [.group .square [.word "doc", .mark '=' false,
      .literal (String.ofList ('"' :: stringChars text ++ ['"']))]]

def isMark (c : Char) : Bool :=
  "~!@#$%^&*-=+|;:,<.>/?'".toList.contains c

/-- Whether a text goes on with a character of an operator, and not with a comment. -/
def continuesWithMark : List Char → Bool
  | '/' :: '/' :: _ => false
  | '/' :: '*' :: _ => false
  | c :: _ => isMark c
  | [] => false

/-- The beginnings of literals, which are no identifiers if they are no literals. -/
def literalStarts : List String :=
  ["r\"", "r#\"", "r##", "b\"", "b'", "br\"", "br#", "c\"", "cr\"", "cr#"]

def isLifetimeMark (rest : List Char) : Bool :=
  match takeName? rest with
  | some (_, '\'' :: _) => false
  | some (_, '#' :: _) => "r#".toList.isPrefixOf rest
  | some _ => true
  | none => false

def takeLeaf? (cs : List Char) : Option (Lexeme × List Char) :=
  match afterLiteral? cs with
  | some rest => some (.literal (String.ofList (cs.take (cs.length - rest.length))), rest)
  | none =>
    match cs with
    | '\'' :: rest => if isLifetimeMark rest then some (.mark '\'' true, rest) else none
    | c :: rest =>
      if continuesWithMark cs then some (.mark c (continuesWithMark rest), rest)
      else if literalStarts.any fun s => s.toList.isPrefixOf cs then none
      else (takeName? cs).map fun (name, rest) => (.word name, rest)
    | [] => none

def opening? : Char → Option Bracket
  | '(' => some .paren
  | '[' => some .square
  | '{' => some .brace
  | _ => none

def closing? : Char → Option Bracket
  | ')' => some .paren
  | ']' => some .square
  | '}' => some .brace
  | _ => none

/-- The lexemes of a text. The groups that are open are kept with what precedes them, last first. -/
def lexemesFrom : Nat → List (Bracket × List Lexeme) → List Lexeme → List Char →
    Option (List Lexeme)
  | 0, _, _, _ => none
  | fuel + 1, stack, done, cs =>
    match cs with
    | [] => if stack.isEmpty then some done.reverse else none
    | c :: rest =>
      if isSpace c then lexemesFrom fuel stack done rest
      else
        match readComment? cs with
        | some (.plain, rest) => lexemesFrom fuel stack done rest
        | some (.doc inner text, rest) =>
          if hasWholeLineEnds text then
            lexemesFrom fuel stack ((docLexemes inner text).reverse ++ done) rest
          else none
        | none =>
          match opening? c, closing? c, stack with
          | some bracket, _, _ => lexemesFrom fuel ((bracket, done) :: stack) [] rest
          | none, some bracket, (opened, before) :: outer =>
            if bracket = opened then
              lexemesFrom fuel outer (.group bracket done.reverse :: before) rest
            else none
          | none, some _, [] => none
          | none, none, _ => do
            let (lexeme, rest) ← takeLeaf? cs
            lexemesFrom fuel stack (lexeme :: done) rest

/-- The lexemes of a text, if it can be cut into some. A byte order mark in front is left out. -/
def lexemes? (text : String) : Option (List Lexeme) :=
  let cs := match text.toList with
    | c :: rest => if c.toNat = 0xFEFF then rest else c :: rest
    | [] => []
  lexemesFrom (cs.length + 1) [] [] cs

end ProtoRules.Rust
