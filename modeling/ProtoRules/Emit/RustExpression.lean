import ProtoRules.Emit.RustPattern
import ProtoRules.Text.Pieces

/-!
Expressions. Operators bind as their precedence says; comparisons do not form chains, and a range
is no operand on the left.
-/

namespace ProtoRules.Rust.Grammar

open Reader

def plainly (tokens : Tokens) : Phrase ExpressionForm :=
  ⟨.other, tokens⟩

def blockLike (tokens : Tokens) : Phrase ExpressionForm :=
  ⟨.block, tokens⟩

/-- The operators between two expressions, those that begin with others first. -/
def binaryOperators : List (String × Precedence) :=
  [("+=", .assign), ("-=", .assign), ("*=", .assign), ("/=", .assign), ("%=", .assign),
    ("^=", .assign), ("&=", .assign), ("|=", .assign), ("<<=", .assign), (">>=", .assign),
    ("&&", .and), ("||", .or), ("<<", .shift), (">>", .shift), ("==", .compare), ("<=", .compare),
    ("!=", .compare), (">=", .compare), ("+", .sum), ("-", .sum), ("*", .product),
    ("/", .product), ("%", .product), ("^", .bitXor), ("&", .bitAnd), ("|", .bitOr),
    ("<", .compare), (">", .compare)]

def seenOperator : Reader (Option (String × Precedence)) := do
  let ls ← get
  return binaryOperators.find? fun (text, _) => (Sign.op text).heads ls

def seesAssignment : Reader Bool := do
  return (← sees (.op "=")) && !(← sees (.op "=>"))

def seenPrecedence : Reader Precedence := do
  if let some (_, precedence) ← seenOperator then return precedence
  if ← seesAssignment then return .assign
  if ← sees (.op "..") then return .range
  if ← sees (.word "as") then return .cast
  return .jump

def seesOperandTail : Reader Bool := do
  return ((← sees (.op ".")) && !(← sees (.op ".."))) ||
    (← seesAny [.op "?", .group .square, .group .paren])

def operandFrom (g : Grammar) (struct : Bool) (precedence : Precedence)
    (own : Phrase ExpressionForm) : Nat → Reader (Phrase ExpressionForm)
  | 0 => failure
  | n + 1 => do
    let next ← seenPrecedence
    if precedence.rank < next.rank || (next = precedence && precedence = .assign) then
      let before := (← get).length
      let longer ← g.extended struct next own
      if (← get).length = before then return longer
      else operandFrom g struct precedence longer n
    else return own

def operand (g : Grammar) (struct : Bool) (precedence : Precedence) : Reader Tokens := do
  let own ← g.unary struct
  return (← g.operandFrom struct precedence own ((← get).length + 1)).tokens

def rangeStops : List Sign :=
  [.op ",", .op ";", .op "?", .op "=>", .op "=", .op "+", .op "/", .op "%", .op "^", .op ">",
    .op "<=", .op "!=", .op "-=", .op "*=", .op "&=", .op "|=", .op "<<=", .word "as", .nothing]

def rangeFrom (g : Grammar) (struct : Bool) (start : Tokens) : Reader (Phrase ExpressionForm) := do
  require !(← sees (.op "..."))
  let isClosed ← sees (.op "..=")
  let dots ← op (if isClosed then "..=" else "..")
  let ends := (← seesAny rangeStops) || ((← sees (.op ".")) && !(← sees (.op ".."))) ||
    (!struct && (← sees (.group .brace)))
  let stop ← if !isClosed && ends then pure [] else g.operand struct .range
  return ⟨.range, start ++ dots ++ stop⟩

def extendedOnce (g : Grammar) (struct : Bool) (base : Precedence)
    (left : Phrase ExpressionForm) : Reader (Option (Phrase ExpressionForm)) := do
  if left.form = .range then return none
  if let some (text, precedence) ← seenOperator then
    if precedence.rank < base.rank then return none
    require (precedence ≠ .compare || left.form ≠ .comparison)
    let right ← row [op text, g.operand struct precedence]
    let form := if precedence = .compare then .comparison else ExpressionForm.other
    return some ⟨form, left.tokens ++ right⟩
  if base.rank ≤ Precedence.assign.rank && (← seesAssignment) then
    return some (plainly (left.tokens ++ (← row [op "=", g.operand struct .assign])))
  if base.rank ≤ Precedence.range.rank && (← sees (.op "..")) then
    return some (← g.rangeFrom struct left.tokens)
  if base.rank ≤ Precedence.cast.rank && (← sees (.word "as")) then
    let cast ← row [word "as", return (← g.type false).tokens]
    require !(← seesOperandTail)
    return some (plainly (left.tokens ++ cast))
  return none

def anyExtended (g : Grammar) (struct : Bool) (base : Precedence) (left : Phrase ExpressionForm) :
    Reader (Phrase ExpressionForm) := do
  match ← g.extendedOnce struct base left with
  | some longer => g.extended struct base longer
  | none => return left

def anyExpression (g : Grammar) (struct : Bool) : Reader (Phrase ExpressionForm) := do
  g.extended struct .jump (← g.unary struct)

def condition (g : Grammar) : Reader Tokens :=
  return (← g.expression false).tokens

def elseBranches (g : Grammar) : Nat → Reader Tokens
  | 0 => failure
  | n + 1 => do
    if !(← sees (.word "else")) then return []
    let own ← word "else"
    if ← sees (.word "if") then
      row [return own, word "if", g.condition, g.block, elseBranches g n]
    else row [return own, g.block]

def conditional (g : Grammar) : Reader Tokens := do
  row [word "if", g.condition, g.block, elseBranches g ((← get).length + 1)]

def label : Reader Tokens :=
  whenSees .lifetime (row [lifetime, op ":"])

/-- An arm of a match. A comma follows it unless its value ends by itself or it is the last one. -/
def matchArm (g : Grammar) : Reader Tokens := do
  let guard := whenSees (.word "if") (row [word "if", g.value])
  let front ← row [g.attributes, g.anyPattern, guard, op "=>"]
  let value ← g.leading
  let comma ← if value.form = .block || (← sees .nothing) then maybeOp "," else op ","
  return front ++ value.tokens ++ comma

def blockExpression (g : Grammar) : Reader Tokens := do
  if ← sees (.word "if") then g.conditional
  else if ← sees (.word "while") then row [word "while", g.condition, g.attributedBlock]
  else if ← sees (.word "for") then
    row [word "for", g.anyPattern, word "in", g.condition, g.attributedBlock]
  else if ← sees (.word "loop") then row [word "loop", g.attributedBlock]
  else if ← sees (.word "match") then
    row [word "match", g.condition,
      group .brace (row [g.innerAttributes, untilSees .nothing g.matchArm])]
  else if ← sees (.word "try") then row [word "try", g.block]
  else if ← seesAny [.word "unsafe", .word "const"] then row [anyWord, g.attributedBlock]
  else g.attributedBlock

def labeled (g : Grammar) : Reader Tokens := do
  let own ← label
  require (← seesAny [.word "while", .word "for", .word "loop", .group .brace])
  return own ++ (← g.blockExpression)

def seesExpression : Reader Bool := do
  let starts := [.group .paren, .group .square, .group .brace, .literal, .op "..", .op "::",
    .lifetime, Sign.op "#"]
  return ((← sees .anyWord) && !(← sees (.word "as"))) || (← seesAny starts) ||
    ((← sees (.op "!")) && !(← sees (.op "!="))) ||
    ((← sees (.op "-")) && !(← seesAny [.op "-=", .op "->"])) ||
    ((← sees (.op "*")) && !(← sees (.op "*="))) ||
    ((← sees (.op "|")) && !(← sees (.op "|="))) ||
    ((← sees (.op "&")) && !(← sees (.op "&="))) ||
    ((← sees (.op "<")) && !(← seesAny [.op "<=", .op "<<="]))

def jumpValue (g : Grammar) (struct : Bool) : Reader Tokens := do
  if ← seesExpression then return (← g.expression struct).tokens else return []

def breakExpression (g : Grammar) (struct : Bool) : Reader Tokens := do
  let own ← word "break"
  require !((← sees .lifetime) && (← seesBehind 1 (.op ":")))
  let target ← whenSees .lifetime lifetime
  let value ← if !struct && (← sees (.group .brace)) then pure [] else g.jumpValue struct
  return own ++ target ++ value

def closureArgument (g : Grammar) : Reader Tokens := do
  row [g.attributes, return (← g.pattern).tokens, whenSees (.op ":") (row [op ":", g.anyType])]

def closure (g : Grammar) (struct : Bool) : Reader Tokens := do
  let front ← row [whenSees (.word "for") g.binder, maybeWord "const", maybeWord "static",
    maybeWord "async", maybeWord "move", op "|", commaRow (.op "|") g.closureArgument, op "|"]
  let (form, output) ← g.result true
  if form.isSome then return front ++ output ++ (← g.block)
  else return front ++ (← g.expression struct).tokens

/-- Whether parameters in angle brackets follow a word, and not a path that starts with a type. -/
def seesParameters : Reader Bool := do
  let next := (← seesAnyBehind 3 [.op ">", .op ","]) ||
    ((← seesBehind 3 (.op ":")) && !(← seesBehind 3 (.op "::"))) ||
    ((← seesBehind 3 (.op "=")) && !(← seesBehind 3 (.op "==")))
  return (← seesBehind 1 (.op "<")) &&
    ((← seesAnyBehind 2 [.op ">", .op "#", .word "const"]) ||
      ((← seesAnyBehind 2 [.lifetime, .name]) && next))

def seesClosure : Reader Bool := do
  return (← seesAny [.op "|", .word "move", .word "static"]) ||
    ((← sees (.word "for")) && (← seesParameters)) ||
    ((← sees (.word "const")) && !(← seesBehind 1 (.group .brace))) ||
    ((← sees (.word "async")) && (← seesAnyBehind 1 [.op "|", .word "move"]))

def fieldValue (g : Grammar) : Reader Tokens := do
  let front ← g.attributes
  let hasIndex := !(← sees .name)
  let own ← field
  if hasIndex || (← sees (.op ":")) then
    return front ++ own ++ (← row [op ":", g.value])
  else return front ++ own

def fieldValuesFrom (g : Grammar) : Nat → Reader Tokens
  | 0 => failure
  | n + 1 => do
    if ← sees .nothing then return []
    if ← sees (.op "..") then
      let dots ← op ".."
      if ← sees .nothing then return dots else return dots ++ (← g.value)
    let own ← g.fieldValue
    if ← sees .nothing then return own
    return own ++ (← op ",") ++ (← fieldValuesFrom g n)

def fieldValues (g : Grammar) : Reader Tokens := do
  fieldValuesFrom g ((← get).length + 1)

def pathExpression (g : Grammar) (struct : Bool) : Reader (Phrase ExpressionForm) := do
  let p ← g.qualified true
  if p.isPlain && (← sees (.op "!")) && !(← sees (.op "!=")) then
    let mark ← op "!"
    let hasBraces ← sees (.group .brace)
    return ⟨.call hasBraces, p.tokens ++ mark ++ (← anyGroup)⟩
  else if struct && (← sees (.group .brace)) then
    return plainly (p.tokens ++ (← group .brace g.fieldValues))
  else return plainly p.tokens

def elements (g : Grammar) : Reader Tokens := do
  if ← sees .nothing then return []
  let first ← g.value
  if ← sees (.op ";") then return first ++ (← row [op ";", g.value])
  else if ← sees .nothing then return first
  else return first ++ (← op ",") ++ (← commaRow .nothing g.value)

def letExpression (g : Grammar) (struct : Bool) : Reader Tokens := do
  let front ← row [word "let", g.anyPattern, op "="]
  let own ← g.unary struct
  return front ++ (← g.extended struct .compare own).tokens

def atom (g : Grammar) (struct : Bool) : Reader (Phrase ExpressionForm) := do
  let asyncBlock := (← sees (.word "async")) && ((← seesBehind 1 (.group .brace)) ||
    ((← seesBehind 1 (.word "move")) && (← seesBehind 2 (.group .brace))))
  let tryBlock := (← sees (.word "try")) && (← seesBehind 1 (.group .brace))
  let tryPath := (← sees (.word "try")) && (← seesAnyBehind 1 [.op "!", .op "::"])
  let blockStarts := [.word "if", .word "while", .word "for", .word "loop", .word "match",
    .word "unsafe", .word "const", Sign.group .brace]
  let builtin := (← sees (.word "builtin")) && (← seesBehind 1 (.op "#"))
  if ← sees .literal then return plainly (← literal)
  else if asyncBlock then return plainly (← row [anyWord, maybeWord "move", g.block])
  else if tryBlock then return blockLike (← g.blockExpression)
  else if ← seesClosure then return plainly (← g.closure struct)
  else if builtin then
    require (← seesBehind 3 (.group .paren))
    return plainly (← row [anyWord, op "#", name, anyGroup])
  else if tryPath || (← seesAny (.name :: pathStarts)) then g.pathExpression struct
  else if ← sees (.group .paren) then return plainly (← commaGroup .paren g.value)
  else if ← sees (.word "break") then return plainly (← g.breakExpression struct)
  else if ← sees (.word "continue") then
    return plainly (← row [anyWord, whenSees .lifetime lifetime])
  else if ← seesAny [.word "return", .word "yield"] then
    return plainly (← row [anyWord, g.jumpValue struct])
  else if ← sees (.word "become") then
    return plainly (← verbatim (row [anyWord, return (← g.expression struct).tokens]))
  else if ← sees (.group .square) then return plainly (← group .square g.elements)
  else if ← sees (.word "let") then return plainly (← g.letExpression struct)
  else if ← seesAny blockStarts then return blockLike (← g.blockExpression)
  else if ← sees (.op "..") then g.rangeFrom struct []
  else if ← sees (.word "_") then return plainly (← anyWord)
  else
    require (← sees .lifetime)
    return blockLike (← g.labeled)

/-- The indices that a number with points stands for, and whether a point ends it. -/
def pointedIndices? (text : String) : Option (Tokens × Bool) := do
  let pieces := Text.splitOn '.' text
  let isOpen := pieces.getLast? == some ""
  let pieces := if isOpen then pieces.dropLast else pieces
  let indices ← pieces.mapM indexToken?
  return ([Token.op "."].intercalate (indices.map ([·])), isOpen)

def memberAccess (g : Grammar) : Reader Tokens := do
  if ← sees (.word "await") then anyWord
  else
    let isName ← sees .name
    let own ← field
    if isName && (← sees (.op "::")) then
      return own ++ (← g.arguments).tokens ++ (← commaGroup .paren g.value)
    else if isName && (← sees (.group .paren)) then
      return own ++ (← commaGroup .paren g.value)
    else return own

def behindPoint (g : Grammar) : Reader Tokens := do
  match ← get with
  | .literal t :: ls =>
    if Sign.isNumber t && !Sign.isWholeNumber t then
      let (indices, isOpen) ← (pointedIndices? t : Option (Tokens × Bool))
      set ls
      if isOpen then return indices ++ [.op "."] ++ (← g.memberAccess) else return indices
    else g.memberAccess
  | _ => g.memberAccess

def trailersFrom (g : Grammar) (own : Phrase ExpressionForm) :
    Nat → Reader (Phrase ExpressionForm)
  | 0 => failure
  | n + 1 => do
    let isRange := own.form = .range
    if ← sees (.group .paren) then
      trailersFrom g (plainly (own.tokens ++ (← commaGroup .paren g.value))) n
    else if !isRange && (← sees (.op ".")) && !(← sees (.op "..")) then
      trailersFrom g (plainly (own.tokens ++ (← row [op ".", g.behindPoint]))) n
    else if ← sees (.group .square) then
      trailersFrom g (plainly (own.tokens ++ (← group .square g.value))) n
    else if !isRange && (← sees (.op "?")) then
      trailersFrom g (plainly (own.tokens ++ (← op "?"))) n
    else return own

def trailers (g : Grammar) (own : Phrase ExpressionForm) : Reader (Phrase ExpressionForm) := do
  g.trailersFrom own ((← get).length + 1)

/-- A reference. It may be a raw one, which says whether it may change what it leads to. -/
def reference (g : Grammar) (struct : Bool) : Reader Tokens := do
  let front ← op "&"
  let isRaw := (← sees (.word "raw")) && (← seesAnyBehind 1 [.word "mut", .word "const"])
  let access ← if isRaw then row [anyWord, anyWord] else maybeWord "mut"
  return front ++ access ++ (← g.unary struct).tokens

def anyUnary (g : Grammar) (struct : Bool) : Reader (Phrase ExpressionForm) := do
  let attributes ← g.attributes
  if ← sees (.op "&") then return plainly (attributes ++ (← g.reference struct))
  else if ← seesAny [.op "*", .op "!", .op "-"] then
    let mark := do
      if ← sees (.op "*") then op "*" else if ← sees (.op "!") then op "!" else op "-"
    return plainly (attributes ++ (← row [mark, return (← g.unary struct).tokens]))
  else
    let own ← g.trailers (← g.atom struct)
    require (attributes.isEmpty || own.form ≠ .range)
    return { own with tokens := attributes ++ own.tokens }

def anyLeading (g : Grammar) : Reader (Phrase ExpressionForm) := do
  let attributes ← g.attributes
  let blockStarts := [.word "if", .word "while", .word "loop", .word "match", .word "unsafe",
    Sign.group .brace]
  let isBlock := (← seesAny blockStarts) || ((← sees (.word "for")) && !(← seesParameters)) ||
    ((← seesAny [.word "try", .word "const"]) && (← seesBehind 1 (.group .brace)))
  let first ←
    if isBlock then pure (blockLike (← g.blockExpression))
    else if ← sees .lifetime then pure (blockLike (← g.labeled))
    else g.unary true
  let own : Phrase ExpressionForm := { first with tokens := attributes ++ first.tokens }
  if own.form ≠ .block then g.extended true .jump own
  else if ((← sees (.op ".")) && !(← sees (.op ".."))) || (← sees (.op "?")) then
    g.extended true .jump (← g.trailers own)
  else return own

end ProtoRules.Rust.Grammar
