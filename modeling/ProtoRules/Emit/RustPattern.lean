import ProtoRules.Emit.RustType

/-!
Patterns. Three dots between the ends of a range are written as two with an equals sign.
-/

namespace ProtoRules.Rust.Grammar

open Reader

def plain (tokens : Tokens) : Phrase PatternForm :=
  ⟨.other, tokens⟩

def seesBar : Reader Bool := do
  return (← sees (.op "|")) && !(← seesAny [.op "||", .op "|="])

def moreAlternatives (g : Grammar) : Nat → Reader Tokens
  | 0 => failure
  | n + 1 => do
    if ← seesBar then
      row [op "|", return (← g.pattern).tokens, moreAlternatives g n]
    else return []

/-- Patterns of which one has to match. A bar may stand in front of them. -/
def alternatives (g : Grammar) : Reader (Phrase PatternForm) := do
  let bar ← maybeOp "|"
  let first ← g.pattern
  let more ← g.moreAlternatives ((← get).length + 1)
  if bar.isEmpty && more.isEmpty then return first
  else return plain (bar ++ first.tokens ++ more)

def anyPattern (g : Grammar) : Reader Tokens :=
  return (← g.alternatives).tokens

def limits : Reader (Bool × Tokens) := do
  if ← sees (.op "..=") then return (true, ← op "..=")
  else if ← sees (.op "...") then
    let _ ← op "..."
    return (true, [.op "..="])
  else return (false, ← op "..")

def constBlock (g : Grammar) : Reader Tokens :=
  row [word "const", g.attributedBlock]

def pathStarts : List Sign :=
  [.op "::", .op "<"] ++ pathWords

def rangeEnd (g : Grammar) : Reader Tokens := do
  let ends := [.op "|", .op "=", .op ",", .op ";", .word "if", .nothing]
  if (← seesAny ends) || ((← sees (.op ":")) && !(← sees (.op "::"))) then return []
  else if ← sees .literal then literal
  else if ← seesAny (.name :: pathStarts) then return (← g.qualified true).tokens
  else g.constBlock

def rangePattern (g : Grammar) (start : Tokens) : Reader (Phrase PatternForm) := do
  let (isClosed, dots) ← limits
  let stop ← g.rangeEnd
  require (!isClosed || !stop.isEmpty)
  return ⟨if start.isEmpty || stop.isEmpty then .openRange else .other, start ++ dots ++ stop⟩

def fieldPattern (g : Grammar) : Reader Tokens := do
  let marks ← row [maybeWord "box", maybeWord "ref", maybeWord "mut"]
  let hasIndex := marks.isEmpty && !(← sees .name)
  let own ← if hasIndex then index else name
  if hasIndex || (marks.isEmpty && (← sees (.op ":"))) then
    return own ++ (← row [op ":", g.anyPattern])
  else return marks ++ own

def fieldPatternsFrom (g : Grammar) : Nat → Reader Tokens
  | 0 => failure
  | n + 1 => do
    if ← sees .nothing then return []
    let attributes ← g.attributes
    if ← sees (.op "..") then return attributes ++ (← op "..")
    let field ← g.fieldPattern
    if ← sees .nothing then return attributes ++ field
    return attributes ++ field ++ (← op ",") ++ (← fieldPatternsFrom g n)

def fieldPatterns (g : Grammar) : Reader Tokens := do
  fieldPatternsFrom g ((← get).length + 1)

def pathPattern (g : Grammar) : Reader (Phrase PatternForm) := do
  let p ← g.qualified true
  if p.isPlain && (← sees (.op "!")) && !(← sees (.op "!=")) then
    return plain (p.tokens ++ (← row [op "!", anyGroup]))
  else if ← sees (.group .brace) then
    return plain (p.tokens ++ (← group .brace g.fieldPatterns))
  else if ← sees (.group .paren) then
    return plain (p.tokens ++ (← commaGroup .paren g.anyPattern))
  else if ← sees (.op "..") then g.rangePattern p.tokens
  else return plain p.tokens

def namePattern (g : Grammar) : Reader Tokens :=
  let own := do if ← sees (.word "self") then anyWord else name
  row [maybeWord "ref", maybeWord "mut", own,
    whenSees (.op "@") (row [op "@", return (← g.pattern).tokens])]

def valuePattern (g : Grammar) : Reader (Phrase PatternForm) := do
  let start ← g.rangeEnd
  if ← sees (.op "..") then g.rangePattern start else return plain start

/-- Patterns for the elements of a row, none of which is an open range. -/
def elementPattern (g : Grammar) : Reader Tokens := do
  let element ← g.alternatives
  require (element.form ≠ .openRange)
  return element.tokens

def seesLongPath : Reader Bool := do
  let next := [.op "::", .op "!", .op "..", .group .brace, Sign.group .paren]
  return (← sees .name) && (← seesAnyBehind 1 next)

def onePattern (g : Grammar) : Reader (Phrase PatternForm) := do
  let selfPath := (← sees (.word "self")) && (← seesBehind 1 (.op "::"))
  let starts := [.op "::", .op "<", .word "Self", .word "super", Sign.word "crate"]
  if (← seesLongPath) || selfPath || (← seesAny starts) then g.pathPattern
  else if ← sees (.word "_") then return plain (← anyWord)
  else if ← sees (.word "box") then
    return plain (← verbatim (row [anyWord, return (← g.pattern).tokens]))
  else if ← seesAny [.op "-", .literal, .word "const"] then g.valuePattern
  else if ← seesAny [.word "ref", .word "mut", .word "self", .name] then
    return plain (← g.namePattern)
  else if ← sees (.op "&") then
    return plain (← row [op "&", maybeWord "mut", return (← g.pattern).tokens])
  else if ← sees (.group .paren) then return plain (← commaGroup .paren g.anyPattern)
  else if ← sees (.group .square) then return plain (← commaGroup .square g.elementPattern)
  else
    require !(← sees (.op "..."))
    let dots ← g.rangePattern []
    if dots.tokens.length = 1 then return plain dots.tokens else return dots

end ProtoRules.Rust.Grammar
