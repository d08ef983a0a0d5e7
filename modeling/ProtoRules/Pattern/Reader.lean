import ProtoRules.Number.Word
import ProtoRules.Pattern.Node
import ProtoRules.Text.Blank
import ProtoRules.Text.Properties

/-!
Reading regular expressions. There are no back references and nothing looks ahead or behind. While
the flag `x` is set, white space and comments between parts do not count.
-/

namespace ProtoRules.Pattern

def isMeta (c : Char) : Bool :=
  ("\\.+*?()|[]^$#&-~".toList ++ ['{', '}']).contains c

def isEscapable (c : Char) : Bool :=
  isMeta c || (c.toNat < 128 && !c.isAlphanum && c != '<' && c != '>')

def hexValue? (c : Char) : Option Nat :=
  if c.isDigit then some (c.toNat - '0'.toNat)
  else if 'a' ≤ c ∧ c ≤ 'f' then some (c.toNat - 'a'.toNat + 10)
  else if 'A' ≤ c ∧ c ≤ 'F' then some (c.toNat - 'A'.toNat + 10)
  else none

def charOf? (n : Nat) : Option Char :=
  if n < 0xD800 ∨ (0xDFFF < n ∧ n < 0x110000) then some (Char.ofNat n) else none

def hexChar? (digits : List Char) : Option Char := do
  if digits.isEmpty then none
  let values ← digits.mapM hexValue?
  charOf? (values.foldl (fun n d => n * 16 + d) 0)

def isLetter (c : Char) : Bool :=
  c.isAlpha || (128 ≤ c.toNat && Text.alphabetic.contains c.toNat)

def isWordChar (c : Char) : Bool :=
  isLetter c || c.isDigit || (128 ≤ c.toNat && Text.numeric.contains c.toNat)

def skipComments : Nat → List Char → List Char
  | 0, cs => cs
  | fuel + 1, cs =>
    match cs.dropWhile Text.isBlank with
    | '#' :: rest => skipComments fuel (rest.dropWhile (· != '\n'))
    | rest => rest

def skip (verbose : Bool) (cs : List Char) : List Char :=
  if verbose then skipComments cs.length cs else cs

/-- The next character that counts behind one that is looked at, a mark of a comment aside. -/
def peek? (verbose : Bool) (cs : List Char) : Option Char :=
  if verbose then
    match cs.dropWhile Text.isBlank with
    | '#' :: rest => (rest.dropWhile Text.isBlank).head?
    | rest => rest.head?
  else cs.head?

inductive Escape
  | glyph (g : Glyph)
  | assertion (kind : Assertion)
  | named (name : ClassName) (negated : Bool)
  | property (query : PropertyQuery) (negated : Bool)

def takeDigits? (verbose : Bool) : Nat → List Char → Option (List Char × List Char)
  | 0, cs => some ([], cs)
  | n + 1, c :: cs => do
    discard (hexValue? c)
    let (digits, rest) ← takeDigits? verbose n (skip verbose cs)
    return (c :: digits, rest)
  | _ + 1, [] => none

def takeBraced? (verbose : Bool) : Nat → List Char → Option (List Char × List Char)
  | 0, _ => none
  | fuel + 1, cs =>
    match skip verbose cs with
    | '}' :: rest => some ([], rest)
    | c :: rest => do
      let (inner, rest) ← takeBraced? verbose fuel rest
      return (c :: inner, rest)
    | [] => none

def readHex? (verbose : Bool) (width : Nat) (cs : List Char) : Option (Escape × List Char) := do
  match skip verbose cs with
  | '{' :: rest =>
    let (digits, rest) ← takeBraced? verbose (rest.length + 1) rest
    return (.glyph ⟨← hexChar? digits, false⟩, skip verbose rest)
  | cs =>
    let (digits, rest) ← takeDigits? verbose width cs
    return (.glyph ⟨← hexChar? digits, width == 2⟩, rest)

def readProperty? (verbose negated : Bool) (cs : List Char) : Option (Escape × List Char) := do
  match skip verbose cs with
  | '{' :: rest =>
    let (name, rest) ← takeBraced? verbose (rest.length + 1) rest
    return (.property (.ofText (String.ofList name)) negated, rest)
  | '\\' :: _ => none
  | c :: rest => some (.property (.named (String.ofList [c])) negated, skip verbose rest)
  | [] => none

def isBoundaryChar (c : Char) : Bool :=
  c.isAlpha || c == '-'

def takeBoundary (verbose : Bool) : Nat → List Char → List Char × List Char
  | 0, cs => ([], cs)
  | fuel + 1, cs =>
    match cs with
    | c :: rest =>
      if isBoundaryChar c then
        let (name, rest) := takeBoundary verbose fuel (skip verbose rest)
        (c :: name, rest)
      else ([], cs)
    | [] => ([], [])

def wordEdge? : String → Option WordEdge
  | "start" => some .start
  | "end" => some .stop
  | "start-half" => some .startHalf
  | "end-half" => some .stopHalf
  | _ => none

/-- Reads the kind of a word boundary, which may stand in braces; other braces repeat it. -/
def readBoundary? (verbose : Bool) (cs : List Char) : Option (WordEdge × List Char) :=
  match cs with
  | '{' :: rest =>
    match skip verbose rest with
    | [] => none
    | c :: inner =>
      if isBoundaryChar c then
        let (name, after) := takeBoundary verbose (inner.length + 1) (c :: inner)
        match after with
        | '}' :: rest =>
          (wordEdge? (String.ofList name)).map fun edge => (edge, rest)
        | _ => none
      else some (.any, cs)
  | cs => some (.any, cs)

def readEscape? (verbose : Bool) : List Char → Option (Escape × List Char)
  | [] => none
  | c :: cs =>
    match c with
    | 'x' => readHex? verbose 2 cs
    | 'u' => readHex? verbose 4 cs
    | 'U' => readHex? verbose 8 cs
    | 'p' => readProperty? verbose false cs
    | 'P' => readProperty? verbose true cs
    | 'd' => some (.named .digit false, cs)
    | 'D' => some (.named .digit true, cs)
    | 's' => some (.named .space false, cs)
    | 'S' => some (.named .space true, cs)
    | 'w' => some (.named .word false, cs)
    | 'W' => some (.named .word true, cs)
    | 'a' | 'f' | 't' | 'n' | 'r' | 'v' => some (.glyph ⟨controlOf c, false⟩, cs)
    | 'A' => some (.assertion .textStart, cs)
    | 'z' => some (.assertion .textEnd, cs)
    | 'B' => some (.assertion (.word .none), cs)
    | '<' => some (.assertion (.word .start), cs)
    | '>' => some (.assertion (.word .stop), cs)
    | 'b' => (readBoundary? verbose cs).map fun (edge, rest) => (.assertion (.word edge), rest)
    | c => if isEscapable c then some (.glyph ⟨c, false⟩, cs) else none
where
  controlOf : Char → Char
    | 'a' => '\x07'
    | 'f' => '\x0c'
    | 't' => '\t'
    | 'n' => '\n'
    | 'r' => '\r'
    | _ => '\x0b'

namespace SetNode

def ofItems : List SetNode → SetNode
  | [] => empty
  | [item] => item
  | items => union items

def combine (left : Option (SetNode × SetOperator)) (items : List SetNode) : SetNode :=
  match left with
  | some (left, op) => combination op left (ofItems items)
  | none => ofItems items

def ofEscape? : Escape → Option SetNode
  | .glyph g => some (.glyph g)
  | .assertion _ => none
  | .named name negated => some (.named name negated)
  | .property query negated => some (.property query negated)

end SetNode

def asciiClasses : List String :=
  ["alnum", "alpha", "ascii", "blank", "cntrl", "digit", "graph", "lower", "print", "punct",
    "space", "upper", "word", "xdigit"]

def readAsciiClass? : List Char → Option (SetNode × List Char)
  | ':' :: cs =>
    let (negated, cs) := match cs with
      | '^' :: cs => (true, cs)
      | cs => (false, cs)
    match cs.span (· != ':') with
    | (name, ':' :: ']' :: rest) =>
      if asciiClasses.contains (String.ofList name) then 
        some (.named (.ascii (String.ofList name)) negated, rest)
      else none
    | _ => none
  | _ => none

def readMember? (verbose : Bool) : List Char → Option (SetNode × List Char)
  | '\\' :: cs => do
    let (escape, rest) ← readEscape? verbose cs
    return (← SetNode.ofEscape? escape, rest)
  | c :: cs => some (.glyph ⟨c, false⟩, cs)
  | [] => none

def readRange? (verbose : Bool) (cs : List Char) : Option (SetNode × List Char) := do
  let (first, rest) ← readMember? verbose cs
  let rest := skip verbose rest
  match rest with
  | '-' :: after =>
    let next := peek? verbose after
    if next == some ']' || next == some '-' then return (first, rest)
    let (last, rest) ← readMember? verbose (skip verbose after)
    match first, last with
    | .glyph a, .glyph b => if a.char ≤ b.char then return (.range a b, rest) else none
    | _, _ => none
  | _ => return (first, rest)

/-- The hyphens at the beginning of a set stand for themselves. -/
def leadingHyphens (verbose : Bool) : Nat → List Char → List SetNode × List Char
  | 0, cs => ([], cs)
  | fuel + 1, cs =>
    match cs with
    | '-' :: rest =>
      let (items, rest) := leadingHyphens verbose fuel (skip verbose rest)
      (.glyph ⟨'-', false⟩ :: items, rest)
    | cs => ([], cs)

/-- The beginning of a set: whether it is a complement, and the members that could not stand
elsewhere. -/
def openSet (verbose : Bool) (cs : List Char) : Bool × List SetNode × List Char :=
  let (negated, cs) := match skip verbose cs with
    | '^' :: cs => (true, skip verbose cs)
    | cs => (false, cs)
  let (items, cs) := leadingHyphens verbose cs.length cs
  match items, cs with
  | [], ']' :: rest => (negated, [.glyph ⟨']', false⟩], skip verbose rest)
  | items, cs => (negated, items, cs)

/-- Reads the members of a set up to the bracket that closes it. The members of the operand at hand
come last first. -/
def readSet? (verbose : Bool) : Nat → Option (SetNode × SetOperator) → List SetNode → List Char →
    Option (SetNode × List Char)
  | 0, _, _, _ => none
  | fuel + 1, left, items, cs =>
    match skip verbose cs with
    | [] => none
    | ']' :: rest => some (SetNode.combine left items.reverse, rest)
    | '[' :: rest =>
      match readAsciiClass? rest with
      | some (item, rest) => readSet? verbose fuel left (item :: items) rest
      | none => do
        let (negated, inner, rest) := openSet verbose rest
        let (body, rest) ← readSet? verbose fuel none inner.reverse rest
        readSet? verbose fuel left (.bracket negated body :: items) rest
    | '&' :: '&' :: rest =>
      readSet? verbose fuel (some (SetNode.combine left items.reverse, .intersection)) [] rest
    | '-' :: '-' :: rest =>
      readSet? verbose fuel (some (SetNode.combine left items.reverse, .difference)) [] rest
    | '~' :: '~' :: rest =>
      readSet? verbose fuel (some (SetNode.combine left items.reverse, .symmetricDifference)) []
        rest
    | cs => do
      let (item, rest) ← readRange? verbose cs
      readSet? verbose fuel left (item :: items) rest

def readCount? (verbose : Bool) : Nat → List Char → List Char → Option (Nat × List Char)
  | 0, _, _ => none
  | fuel + 1, digits, cs =>
    match cs with
    | c :: rest =>
      if c.isDigit then readCount? verbose fuel (c :: digits) (skip verbose rest)
      else if digits.isEmpty then none
      else
        let n := digits.foldr (fun c n => n * 10 + (c.toNat - '0'.toNat)) 0
        if n < IntFormat.count 32 then some (n, (c :: rest).dropWhile Text.isBlank) else none
    | [] => none

def readBound? (verbose : Bool) (cs : List Char) : Option (Nat × List Char) :=
  readCount? verbose (cs.length + 1) [] (cs.dropWhile Text.isBlank)

def readCounts? (verbose : Bool) (cs : List Char) : Option (Nat × Option Nat × List Char) := do
  let (least, rest) ← readBound? verbose (skip verbose cs)
  match rest with
  | '}' :: rest => return (least, some least, rest)
  | ',' :: rest =>
    match skip verbose rest with
    | '}' :: rest => return (least, none, rest)
    | rest =>
      let (most, rest) ← readBound? verbose rest
      match rest with
      | '}' :: rest => if least ≤ most then return (least, some most, rest) else none
      | _ => none
  | _ => none

def readGreed : List Char → Bool × List Char
  | '?' :: cs => (false, cs)
  | cs => (true, cs)

def repeated? : List Node → Option (Node × List Node)
  | [] => none
  | .empty :: _ => none
  | .settings _ :: _ => none
  | n :: ns => some (n, ns)

def flag? : Char → Option Flag
  | 'i' => some .caseInsensitive
  | 'm' => some .multiLine
  | 's' => some .dotMatchesNewLine
  | 'U' => some .swapGreed
  | 'u' => some .unicode
  | 'R' => some .crlf
  | 'x' => some .ignoreWhitespace
  | _ => none

/-- Reads flags up to the character that ends them, which is kept. None occurs twice, and something
follows a minus. -/
def readFlags? : Bool → List Setting → List Char → Option (List Setting × List Char)
  | _, _, [] => none
  | negated, done, c :: cs =>
    if c = ':' ∨ c = ')' then
      if negated && (done.head?.all (·.isSet)) then none else some (done.reverse, c :: cs)
    else if c = '-' then if negated then none else readFlags? true done cs
    else do
      let f ← flag? c
      if done.any (·.flag == f) then none
      readFlags? negated (⟨f, !negated⟩ :: done) cs

def verboseAfter (settings : List Setting) (verbose : Bool) : Bool :=
  settings.foldl (fun v s => if s.flag = .ignoreWhitespace then s.isSet else v) verbose

inductive Opening
  | capture (name : Option String)
  | plain (settings : List Setting)
  | settings (settings : List Setting)

def readName? (cs : List Char) : Option (Opening × List Char) :=
  match cs.span (· != '>') with
  | (c :: name, _ :: rest) =>
    if (c == '_' || isLetter c) &&
        name.all (fun c => c == '_' || c == '.' || c == '[' || c == ']' || isWordChar c) then
      some (.capture (some (String.ofList (c :: name))), rest)
    else none
  | _ => none

def readOpening? (cs : List Char) : Option (Opening × List Char) :=
  match cs with
  | '?' :: '=' :: _ | '?' :: '!' :: _ => none
  | '?' :: '<' :: '=' :: _ | '?' :: '<' :: '!' :: _ => none
  | '?' :: 'P' :: '<' :: rest => readName? rest
  | '?' :: '<' :: rest => readName? rest
  | '?' :: rest => do
    let (settings, rest) ← readFlags? false [] rest
    match rest with
    | ')' :: rest => if settings.isEmpty then none else return (.settings settings, rest)
    | _ :: rest => return (.plain settings, rest)
    | [] => none
  | rest => some (.capture none, rest)

namespace Node

def ofParts : List Node → Node
  | [] => empty
  | [part] => part
  | parts => sequence parts

def ofBranches (done : List Node) (parts : List Node) : Node :=
  let last := ofParts parts.reverse
  if done.isEmpty then last else choice (done.reverse ++ [last])

def ofEscape : Escape → Node
  | .glyph g => glyph g
  | .assertion kind => assertion kind
  | .named name negated => named name negated
  | .property query negated => property query negated

end Node

/-- How far the reading of a group has come: whether white space counts, the number and the names of
groups so far, and the branches and parts so far, last first. -/
structure Progress where
  verbose : Bool := false
  captures : Nat := 0
  names : List String := []
  branches : List Node := []
  parts : List Node := []

namespace Progress

def push (p : Progress) (n : Node) : Progress :=
  { p with parts := n :: p.parts }

def node (p : Progress) : Node :=
  Node.ofBranches p.branches p.parts

def repetition? (p : Progress) (least : Nat) (most : Option Nat) (greedy : Bool) :
    Option Progress := do
  let (body, parts) ← repeated? p.parts
  return { p with parts := .repetition least most greedy body :: parts }

/-- Counts one more group, whose name must be new. -/
def capture? (p : Progress) : Option String → Option Progress
  | none => some { p with captures := p.captures + 1 }
  | some name =>
    if p.names.contains name then none
    else some { p with captures := p.captures + 1, names := name :: p.names }

end Progress

section Rest

variable (readRest : Progress → List Char → Option (Progress × List Char))

/-- Reads a group up to the bracket that closes it, and then what comes after it. -/
def readGroup? (p : Progress) (verbose : Bool) (close : Node → Node) (cs : List Char) :
    Option (Progress × List Char) := do
  let inner : Progress := { verbose, captures := p.captures, names := p.names }
  match ← readRest inner cs with
  | (inner, ')' :: rest) =>
    readRest
      { p.push (close inner.node) with captures := inner.captures, names := inner.names } rest
  | _ => none

def readRepetition? (p : Progress) (least : Nat) (most : Option Nat) (cs : List Char) :
    Option (Progress × List Char) := do
  let (greedy, rest) := readGreed cs
  readRest (← p.repetition? least most greedy) rest

end Rest

/-- Reads up to the bracket that closes the group at hand, which is kept, or to the end. -/
def readBody? : Nat → Progress → List Char → Option (Progress × List Char)
  | 0, _, _ => none
  | fuel + 1, p, cs =>
    match skip p.verbose cs with
    | [] => some (p, [])
    | ')' :: rest => some (p, ')' :: rest)
    | '|' :: rest =>
      readBody? fuel
        { p with branches := Node.ofParts p.parts.reverse :: p.branches, parts := [] } rest
    | '(' :: rest => do
      match ← readOpening? (skip p.verbose rest) with
      | (.settings settings, rest) =>
        let verbose := verboseAfter settings p.verbose
        readBody? fuel { p.push (.settings settings) with verbose } rest
      | (.plain settings, rest) =>
        readGroup? (readBody? fuel) p (verboseAfter settings p.verbose) (.group settings) rest
      | (.capture name, rest) =>
        let p ← p.capture? name
        readGroup? (readBody? fuel) p p.verbose (.capture p.captures) rest
    | '[' :: rest => do
      let (negated, items, rest) := openSet p.verbose rest
      let (body, rest) ← readSet? p.verbose (rest.length + 1) none items.reverse rest
      readBody? fuel (p.push (.set negated body)) rest
    | '?' :: rest => readRepetition? (readBody? fuel) p 0 (some 1) rest
    | '*' :: rest => readRepetition? (readBody? fuel) p 0 none rest
    | '+' :: rest => readRepetition? (readBody? fuel) p 1 none rest
    | '{' :: rest => do
      let (least, most, rest) ← readCounts? p.verbose rest
      readRepetition? (readBody? fuel) p least most (skip p.verbose rest)
    | '\\' :: rest => do
      let (escape, rest) ← readEscape? p.verbose rest
      readBody? fuel (p.push (Node.ofEscape escape)) rest
    | '.' :: rest => readBody? fuel (p.push .dot) rest
    | '^' :: rest => readBody? fuel (p.push (.assertion .lineStart)) rest
    | '$' :: rest => readBody? fuel (p.push (.assertion .lineEnd)) rest
    | c :: rest => readBody? fuel (p.push (.glyph ⟨c, false⟩)) rest

def read? (pattern : String) : Option Node := do
  match ← readBody? (pattern.toList.length + 1) {} pattern.toList with
  | (p, []) => some p.node
  | _ => none

end ProtoRules.Pattern
