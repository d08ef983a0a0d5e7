import ProtoRules.Emit.RustGrammar

/-!
Paths, their arguments, bounds and types. Arguments that are lifetimes are written before the
others.
-/

namespace ProtoRules.Rust.Grammar

open Reader

def seesSegment : Reader Bool := do
  return (← sees (.op "::")) && !(← seesBehind 2 (.group .paren))

/-- A segment. In an expression its arguments need a double colon in front. -/
def segment (g : Grammar) (inExpression : Bool) : Reader Segment := do
  if ← seesAny [.word "super", .word "self", .word "crate", .word "try"] then
    return ⟨← anyWord, .absent⟩
  let own ← if ← sees (.word "Self") then anyWord else name
  let direct := !inExpression && (← sees (.op "<")) && !(← sees (.op "<="))
  if direct || ((← sees (.op "::")) && (← seesBehind 2 (.op "<"))) then
    return ⟨own, ← g.arguments⟩
  else return ⟨own, .absent⟩

def segmentsFrom (g : Grammar) (inExpression : Bool) (goesOn : Reader Bool) :
    Nat → Reader (List Segment)
  | 0 => failure
  | n + 1 => do
    let first ← g.segment inExpression
    if ← goesOn then
      let _ ← op "::"
      return first :: (← segmentsFrom g inExpression goesOn n)
    else return [first]

def segments (g : Grammar) (inExpression : Bool) (goesOn : Reader Bool) :
    Reader (List Segment) := do
  segmentsFrom g inExpression goesOn ((← get).length + 1)

def path (g : Grammar) (inExpression : Bool) : Reader Path := do
  let front ← maybeOp "::"
  return ⟨front, false, ← g.segments inExpression seesSegment⟩

def qualified (g : Grammar) (inExpression : Bool) : Reader Path := do
  if ← sees (.op "<") then
    let trait := whenSees (.word "as") (row [word "as", return (← g.path false).tokens])
    let front ← row [op "<", g.anyType, trait, op ">", op "::"]
    return ⟨front, true, ← g.segments inExpression (sees (.op "::"))⟩
  else g.path inExpression

def seesParens : Reader Bool := do
  return (← sees (.group .paren)) || ((← sees (.op "::")) && (← seesBehind 2 (.group .paren)))

def result (g : Grammar) (plus : Bool) : Reader (Option TypeForm × Tokens) := do
  if ← sees (.op "->") then
    let arrow ← op "->"
    let type ← g.type plus
    return (some type.form, arrow ++ type.tokens)
  else return (none, [])

/-- Arguments in parentheses, and whether segments may follow them. The double colon in front of
them is left out. -/
def parenthesized (g : Grammar) : Reader (Tokens × Bool) := do
  let _ ← maybeOp "::"
  let inputs ← commaGroup .paren g.anyType
  let (form, output) ← g.result false
  let mayGoOn := match form with
    | none => true
    | some .parens => true
    | some _ => false
  return (inputs ++ output, mayGoOn)

def typePathFrom (g : Grammar) (p : Path) : Nat → Reader Path
  | 0 => failure
  | n + 1 => do
    if p.endsBare && (← seesParens) then
      let (arguments, mayGoOn) ← g.parenthesized
      let p := p.withArguments (.parenthesized arguments)
      if mayGoOn && (← seesSegment) then
        let _ ← op "::"
        let more ← g.segments false seesSegment
        typePathFrom g { p with segments := p.segments ++ more } n
      else typePathFrom g p n
    else return p

def typePath (g : Grammar) : Reader Path := do
  typePathFrom g (← g.qualified false) ((← get).length + 2)

/-- Bounds with pluses between them. A plus may also stand at their end. -/
def boundsFrom (stop : List Sign) (bound : Reader Tokens) : Nat → Reader Tokens
  | 0 => failure
  | n + 1 => do
    if ← seesAny stop then return []
    let first ← bound
    if ← sees (.op "+") then row [return first, op "+", boundsFrom stop bound n] else return first

def bounds (stop : List Sign) (bound : Reader Tokens) : Reader Tokens := do
  boundsFrom stop bound ((← get).length + 1)

/-- A colon with bounds behind it; a colon alone is left out. -/
def colonBounds (stop : List Sign) (bound : Reader Tokens) : Reader Tokens := do
  if ← sees (.op ":") then
    let colon ← op ":"
    let bs ← bounds stop bound
    return if bs.isEmpty then [] else colon ++ bs
  else return []

def plainBound (g : Grammar) : Reader Tokens :=
  return (← g.bound false true).tokens

def boundStarts : List Sign :=
  [.anyWord, .op "::", .op "?", .lifetime, .group .paren]

/-- Bounds that make up a type, more than one only if that is allowed. They end at a plus that no
bound follows. -/
def typeBoundsFrom (g : Grammar) (plus captures const : Bool) :
    Nat → Reader (List (Phrase BoundForm))
  | 0 => failure
  | n + 1 => do
    let first ← g.bound captures const
    if plus && (← sees (.op "+")) then
      let closed := { first with tokens := first.tokens ++ (← op "+") }
      let starts := if const then .group .square :: boundStarts else boundStarts
      if ← seesAny starts then
        return closed :: (← typeBoundsFrom g plus captures const n)
      else return [closed]
    else return [first]

def typeBoundList (g : Grammar) (plus captures const : Bool) :
    Reader (List (Phrase BoundForm)) := do
  typeBoundsFrom g plus captures const ((← get).length + 1)

/-- The bounds of a type, at least one of which is a trait. -/
def typeBounds (g : Grammar) (plus captures const : Bool) : Reader Tokens := do
  let bs ← g.typeBoundList plus captures const
  require (bs.any (·.form = .trait))
  return bs.flatMap (·.tokens)

inductive ParameterForm
  | lifetime
  | other
deriving DecidableEq, Repr

def constant (g : Grammar) : Reader Tokens := do
  if ← sees .literal then literal else if ← sees .name then name else g.attributedBlock

def parameter (g : Grammar) : Reader (Phrase ParameterForm) := do
  let attributes ← g.attributes
  if ← sees .name then
    let bounds := colonBounds [.op ",", .op ">", .op "=", .nothing] g.plainBound
    let default := whenSees (.op "=") (row [op "=", g.anyType])
    return ⟨.other, attributes ++ (← row [name, bounds, default])⟩
  if ← sees .lifetime then
    let bounds := colonBounds [.op ",", .op ">", .nothing] lifetime
    return ⟨.lifetime, attributes ++ (← row [lifetime, bounds])⟩
  let default := whenSees (.op "=") (row [op "=", g.constant])
  return ⟨.other, attributes ++ (← row [word "const", name, op ":", g.anyType, default])⟩

def binder (g : Grammar) : Reader Tokens :=
  row [word "for", op "<", commaRow (.op ">") (return (← g.parameter).tokens), op ">"]

def traitPath (g : Grammar) : Reader Path := do
  let p ← g.path false
  if p.endsBare && (← seesParens) then
    return p.withArguments (.parenthesized (← g.parenthesized).1)
  else return p

def traitBound (g : Grammar) (const : Bool) : Reader (Bool × Tokens) := do
  let lifetimes ← whenSees (.word "for") g.binder
  let mark ← if ← sees (.group .square) then group .square (word "const") else maybeWord "const"
  require (const || mark.isEmpty)
  let modifier ← maybeOp "?"
  require (lifetimes.isEmpty || modifier.isEmpty)
  let p ← g.traitPath
  return (!mark.isEmpty, modifier ++ lifetimes ++ p.tokens)

def capture : Reader Tokens := do
  let front ← row [word "use", op "<"]
  let item : Reader (Bool × Tokens) := do
    if ← sees .lifetime then return (true, ← lifetime)
    else if ← sees (.word "Self") then return (false, ← anyWord)
    else return (false, ← name)
  let items ← parts (.op ">") item
  return front ++ writtenFirst (·.1) (·.2) items ++ (← op ">")

def takenSince (before : List Lexeme) : Reader Tokens := do
  return Lexeme.tokens (before.take (before.length - (← get).length))

/-- A bound. One that asks for constant functions stays as it is. -/
def anyBound (g : Grammar) (captures const : Bool) : Reader (Phrase BoundForm) := do
  if ← sees .lifetime then return ⟨.lifetime, ← lifetime⟩
  if ← sees (.word "use") then
    require captures
    return ⟨.capture, ← capture⟩
  let before ← get
  if ← sees (.group .paren) then
    let (isConst, tokens) ← within .paren (g.traitBound const)
    if isConst then return ⟨.trait, ← takenSince before⟩ else return ⟨.trait, [parens tokens]⟩
  else
    let (isConst, tokens) ← g.traitBound const
    if isConst then return ⟨.trait, ← takenSince before⟩ else return ⟨.trait, tokens⟩

def argument (g : Grammar) : Reader (Bool × Tokens) := do
  if (← sees .lifetime) && !(← seesBehind 1 (.op "+")) then return (true, ← lifetime)
  if ← seesAny [.literal, .group .brace] then return (false, ← g.constant)
  let type ← g.type true
  match type.form with
  | .name =>
    if ← sees (.op "=") then
      let equals ← op "="
      let value ← if ← seesAny [.literal, .group .brace] then g.constant else g.anyType
      return (false, type.tokens ++ equals ++ value)
    else if ← sees (.op ":") then
      let bounds ← row [op ":", bounds [.op ",", .op ">"] g.plainBound]
      return (false, type.tokens ++ bounds)
    else return (false, type.tokens)
  | _ => return (false, type.tokens)

def angled (g : Grammar) : Reader Arguments := do
  let front ← row [maybeOp "::", op "<"]
  let arguments ← parts (.op ">") g.argument
  let close ← op ">"
  return .angled (front ++ writtenFirst (·.1) (·.2) arguments ++ close) arguments.isEmpty

def bare (tokens : Tokens) : Phrase TypeForm :=
  ⟨.other, tokens⟩

def moreBounds (g : Grammar) : Reader Tokens :=
  whileSees (.op "+") (row [op "+", return (← g.bound false false).tokens])

inductive Enclosed
  | tuple (tokens : Tokens)
  | objects (tokens : Tokens)
  | weak (tokens : Tokens)
  | one (type : Phrase TypeForm)

def enclosed (g : Grammar) : Reader Enclosed := do
  if ← sees .nothing then return .tuple []
  if ← sees .lifetime then return .objects (← g.typeBounds true false false)
  if ← sees (.op "?") then return .weak (← g.traitBound false).2
  let first ← g.type true
  if ← sees (.op ",") then
    return .tuple (first.tokens ++ (← op ",") ++ (← commaRow .nothing g.anyType))
  else return .one first

/-- The bound that a type in parentheses is if a plus follows it. -/
def TypeForm.bound? (type : Phrase TypeForm) : Option Tokens :=
  match type.form with
  | .name => some type.tokens
  | .path => some type.tokens
  | .bound bare => some bare
  | _ => none

def enclosedType (g : Grammar) (plus : Bool) : Reader (Phrase TypeForm) := do
  match ← within .paren g.enclosed with
  | .tuple tokens => return bare [parens tokens]
  | .objects tokens => return ⟨.parens, [parens tokens]⟩
  | .weak tokens =>
    let more ← g.moreBounds
    return ⟨if more.isEmpty then .bound tokens else .other, parens tokens :: more⟩
  | .one type =>
    if plus && (← sees (.op "+")) then
      match TypeForm.bound? type with
      | some tokens => return bare (parens tokens :: (← g.moreBounds))
      | none => return ⟨.parens, [parens type.tokens]⟩
    else return ⟨.parens, [parens type.tokens]⟩

def linkage : Reader Tokens :=
  whenSees (.word "extern") (row [word "extern", whenSees .string literal])

def dots : Reader Tokens := do
  let name ← if ← seesAny [.name, .word "_"] then row [anyWord, op ":"] else pure []
  return name ++ (← row [op "...", maybeOp ","])

def seesDots : Reader Bool := do
  return (← sees (.op "...")) || ((← seesAny [.name, .word "_"]) && (← seesBehind 1 (.op ":")) &&
    (← seesBehind 2 (.op "...")))

def seesNamed (isFirst : Bool) : Reader Bool := do
  let names := if isFirst then [.name, .word "_", .word "self"] else [Sign.name, .word "_"]
  return (← seesAny names) && (← seesBehind 1 (.op ":")) && !(← seesBehind 1 (.op "::"))

def functionArgument (g : Grammar) (isFirst : Bool) : Reader Tokens := do
  let ownMut ← if isFirst && (← sees (.word "mut")) && (← seesBehind 1 (.word "self")) then
      word "mut"
    else pure []
  let isSelf ← sees (.word "self")
  if ← seesNamed isFirst then
    let name ← row [anyWord, op ":"]
    let isOwn := isFirst && !isSelf && (← sees (.word "mut")) && (← seesBehind 1 (.word "self"))
    return ownMut ++ name ++ (← if isOwn then row [anyWord, anyWord] else g.anyType)
  else if ownMut.isEmpty then g.anyType
  else return ownMut ++ (← word "self")

def functionArgumentsFrom (g : Grammar) (isFirst : Bool) : Nat → Reader Tokens
  | 0 => failure
  | n + 1 => do
    if ← sees .nothing then return []
    let attributes ← g.attributes
    if ← seesDots then return attributes ++ (← dots)
    let argument ← g.functionArgument isFirst
    if ← sees .nothing then return attributes ++ argument
    return attributes ++ argument ++ (← op ",") ++ (← functionArgumentsFrom g false n)

def functionType (g : Grammar) : Reader Tokens := do
  let arguments := do functionArgumentsFrom g true ((← get).length + 1)
  row [maybeWord "unsafe", linkage, word "fn", group .paren arguments,
    return (← g.result false).2]

def pathType (g : Grammar) (plus : Bool) (binder : Tokens) : Reader (Phrase TypeForm) := do
  let p ← g.typePath
  if p.isOfType then return bare p.tokens
  if p.isPlain && (← sees (.op "!")) && !(← sees (.op "!=")) then
    return bare (p.tokens ++ (← row [op "!", anyGroup]))
  let own := binder ++ p.tokens
  if plus && (← sees (.op "+")) then
    let first := own ++ (← op "+")
    if ← seesAny boundStarts then
      return bare (first ++ (← g.typeBoundList true false false).flatMap (·.tokens))
    else return bare first
  else return ⟨if binder.isEmpty then p.form else .bound own, own⟩

def anyKindOfType (g : Grammar) (plus : Bool) : Reader (Phrase TypeForm) := do
  let before ← get
  let binder ← whenSees (.word "for") g.binder
  let functionStarts := [.word "fn", .word "unsafe", Sign.word "extern"]
  let names := .name :: pathWords
  if ← seesAny functionStarts then return bare (binder ++ (← g.functionType))
  if ← seesAny names then return ← g.pathType plus binder
  require binder.isEmpty
  if ← seesAny [.op "::", .op "<"] then g.pathType plus []
  else if ← sees (.group .paren) then g.enclosedType plus
  else if ← sees (.word "dyn") then
    let dyn ← word "dyn"
    let star ← maybeOp "*"
    let bounds ← g.typeBounds plus false false
    if star.isEmpty then return bare (dyn ++ bounds) else return bare (← takenSince before)
  else if ← sees (.group .square) then
    let count := whenSees (.op ";") (row [op ";", g.value])
    return bare (← group .square (row [g.anyType, count]))
  else if ← sees (.op "*") then
    let access := do if ← sees (.word "const") then anyWord else word "mut"
    return bare (← row [op "*", access, return (← g.type false).tokens])
  else if ← sees (.op "&") then
    return bare (← row [op "&", whenSees .lifetime lifetime, maybeWord "mut",
      return (← g.type false).tokens])
  else if ← sees (.op "!") then return bare (← op "!")
  else if ← sees (.word "impl") then
    return bare (← row [word "impl", g.typeBounds plus true true])
  else if ← sees (.word "_") then return bare (← anyWord)
  else
    require (← sees .lifetime)
    return bare (← g.typeBounds true false false)

end ProtoRules.Rust.Grammar
