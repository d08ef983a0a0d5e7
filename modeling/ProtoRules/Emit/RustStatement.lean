import ProtoRules.Emit.RustExpression

/-!
Statements. An expression at the end of a block or one that ends by itself needs no semicolon
behind it.
-/

namespace ProtoRules.Rust.Grammar

open Reader

def seesWordBefore (text : String) (next : List Sign) : Reader Bool := do
  return (← sees (.word text)) && (← seesAnyBehind 1 next)

def seesItemCall : Reader Bool := do
  match (plainPath (← get)) with
  | some (_, rest) =>
    return (Sign.op "!").heads rest &&
      [.name, Sign.word "try"].any (·.heads (Lexeme.behind 1 rest))
  | none => return false

/-- Whether an item comes next, and not an expression that begins with the same word. -/
def seesItem : Reader Bool := do
  let words := ["pub", "extern", "use", "fn", "mod", "type", "struct", "enum", "trait", "impl",
    "macro"]
  let functionStarts := [.word "unsafe", .word "extern", Sign.word "fn"]
  let crateItem := (← sees (.word "crate")) && !(← seesBehind 1 (.op "::"))
  let asyncClosure := (← seesBehind 1 (.word "async")) &&
    (← seesAnyBehind 2 [.word "move", .op "|"])
  let staticItem := (← sees (.word "static")) && ((← seesBehind 1 (.word "mut")) ||
    ((← seesBehind 1 .name) && !asyncClosure))
  let constClosure := (← seesAnyBehind 1 [.group .brace, .word "static", .word "move", .op "|"]) ||
    ((← seesBehind 1 (.word "async")) && !(← seesAnyBehind 2 functionStarts))
  let constItem := (← sees (.word "const")) && !constClosure
  let unsafeItem := (← sees (.word "unsafe")) && !(← seesBehind 1 (.group .brace))
  return (← seesAny (words.map .word)) || crateItem || staticItem || constItem || unsafeItem ||
    (← seesWordBefore "async" functionStarts) || (← seesWordBefore "union" [.name]) ||
    (← seesWordBefore "auto" [.word "trait"]) ||
    (← seesWordBefore "default" [.word "unsafe", .word "impl"]) || (← seesItemCall)

/-- A statement, and whether a semicolon would have to follow it if it were not the last one. -/
structure Statement where
  tokens : Tokens
  isOpen : Bool

/-- A binding of a pattern. If its value may not match, a block behind `else` leaves the scope. -/
def binding (g : Grammar) : Reader Tokens := do
  let front ← row [word "let", return (← g.pattern).tokens,
    whenSees (.op ":") (row [op ":", g.anyType])]
  if ← sees (.op "=") then
    let value ← row [op "=", g.value]
    let endsWithBlock := match value.getLast? with
      | some (.group .brace _) => true
      | _ => false
    let refusal ← if endsWithBlock then pure [] else
      whenSees (.word "else") (row [word "else", g.block])
    return front ++ value ++ refusal ++ (← op ";")
  else return front ++ (← op ";")

/-- Whether a call of a macro with braces comes next that is a statement and no operand. -/
def seesBlockCall : Reader Bool := do
  match (plainPath (← get)) with
  | some (_, rest) =>
    let behind := Lexeme.behind 2 rest
    return (Sign.op "!").heads rest && (Sign.group .brace).heads (Lexeme.behind 1 rest) &&
      !((Sign.op ".").heads behind && !(Sign.op "..").heads behind) && !(Sign.op "?").heads behind
  | none => return false

def expressionStatement (g : Grammar) : Reader Statement := do
  let own ← g.leading
  let semicolon ← maybeOp ";"
  let endsItself := own.form = .block || own.form = .call true
  return ⟨own.tokens ++ semicolon, semicolon.isEmpty && !endsItself⟩

def statement (g : Grammar) : Reader Statement := do
  let attributes ← g.attributes
  if ← seesBlockCall then
    return ⟨attributes ++ (← row [plainPath, op "!", anyGroup, maybeOp ";"]), false⟩
  else if ← sees (.word "let") then return ⟨attributes ++ (← g.binding), false⟩
  else if ← seesItem then return ⟨attributes ++ (← g.item), false⟩
  else
    let own ← g.expressionStatement
    return { own with tokens := attributes ++ own.tokens }

def statementsFrom (g : Grammar) : Nat → Reader Tokens
  | 0 => failure
  | n + 1 => do
    let empty ← whileSees (.op ";") (op ";")
    if ← sees .nothing then return empty
    let own ← g.statement
    if ← sees .nothing then return empty ++ own.tokens
    require !own.isOpen
    return empty ++ own.tokens ++ (← statementsFrom g n)

def allStatements (g : Grammar) : Reader Tokens := do
  statementsFrom g ((← get).length + 1)

end ProtoRules.Rust.Grammar
