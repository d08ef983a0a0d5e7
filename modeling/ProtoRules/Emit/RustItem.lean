import ProtoRules.Emit.RustStatement

/-!
Items. Parameters that are lifetimes are written before the others; empty parameters and
conditions are left out.
-/

namespace ProtoRules.Rust.Grammar

open Reader

def restriction : Reader Tokens := do
  if ← sees (.word "in") then row [anyWord, plainPath]
  else
    require (← seesAny [.word "crate", .word "self", .word "super"])
    anyWord

def visibility : Reader Tokens := do
  if !(← sees (.word "pub")) then return []
  let own ← anyWord
  match group .paren restriction (← get) with
  | some (tokens, rest) =>
    set rest
    return own ++ tokens
  | none => return own

def parameters (g : Grammar) : Reader Tokens := do
  if !(← sees (.op "<")) then return []
  let front ← op "<"
  let own ← parts (.op ">") g.parameter
  let close ← op ">"
  if own.isEmpty then return []
  else return front ++ writtenFirst (·.form = .lifetime) (·.tokens) own ++ close

def conditionStops : List Sign :=
  [.group .brace, .op ",", .op ";", .op ":", .op "=", .nothing]

def oneCondition (g : Grammar) : Reader Tokens := do
  if (← sees .lifetime) && (← seesBehind 1 (.op ":")) then
    row [lifetime, op ":", bounds conditionStops lifetime]
  else
    let stop := conditionStops.filter (· ≠ .op ":")
    row [whenSees (.word "for") g.binder, g.anyType, op ":", bounds stop g.plainBound]

def conditionsFrom (g : Grammar) : Nat → Reader Tokens
  | 0 => failure
  | n + 1 => do
    if (← seesAny conditionStops) && !(← sees (.op "::")) then return []
    let first ← g.oneCondition
    if ← sees (.op ",") then row [return first, op ",", conditionsFrom g n] else return first

def conditions (g : Grammar) : Reader Tokens := do
  if !(← sees (.word "where")) then return []
  let front ← anyWord
  let own ← g.conditionsFrom ((← get).length + 1)
  return if own.isEmpty then [] else front ++ own

def receiver (g : Grammar) : Reader Tokens := do
  if ← sees (.op "&") then
    row [op "&", whenSees .lifetime lifetime, maybeWord "mut", word "self"]
  else row [maybeWord "mut", word "self", whenSees (.op ":") (row [op ":", g.anyType])]

def typedArgument (g : Grammar) (isFirst : Bool) : Reader Tokens := do
  match g.receiver (← get) with
  | some (tokens, rest) =>
    require isFirst
    set rest
    return tokens
  | none =>
    if (← sees .name) && (← seesBehind 1 (.op "<")) then
      return [.word "_", .op ":"] ++ (← g.anyType)
    else
      let type := do if ← sees (.op "...") then op "..." else g.anyType
      row [return (← g.pattern).tokens, op ":", type]

def argumentsFrom (g : Grammar) (isFirst : Bool) : Nat → Reader Tokens
  | 0 => failure
  | n + 1 => do
    if ← sees .nothing then return []
    let front ← g.attributes
    if ← sees (.op "...") then return front ++ (← row [op "...", maybeOp ","])
    let own ← g.typedArgument isFirst
    if ← sees .nothing then return front ++ own
    return front ++ own ++ (← op ",") ++ (← argumentsFrom g false n)

def signature (g : Grammar) : Reader Tokens := do
  let arguments := do argumentsFrom g true ((← get).length + 1)
  row [maybeWord "const", maybeWord "async", maybeWord "unsafe", linkage, word "fn", name,
    g.parameters, group .paren arguments, return (← g.result true).2, g.conditions]

def seesSignature : Reader Bool := do
  let marks := row [maybeWord "const", maybeWord "async", maybeWord "unsafe", linkage]
  match marks (← get) with
  | some (_, rest) => return (Sign.word "fn").heads rest
  | none => return false

def function (g : Grammar) : Reader Tokens := do
  row [g.signature, do if ← sees (.op ";") then op ";" else g.attributedBlock]

def constantItem (g : Grammar) : Reader Tokens := do
  let own := do if ← sees (.word "_") then anyWord else name
  row [word "const", own, g.parameters, op ":", g.anyType,
    whenSees (.op "=") (row [op "=", g.value]), g.conditions, op ";"]

def staticItem (g : Grammar) : Reader Tokens :=
  row [word "static", maybeWord "mut", name, whenSees (.op ":") (row [op ":", g.anyType]),
    whenSees (.op "=") (row [op "=", g.value]), op ";"]

def typeItem (g : Grammar) : Reader Tokens :=
  row [word "type", name, g.parameters,
    colonBounds [.word "where", .op "=", .op ";"] g.plainBound, g.conditions,
    whenSees (.op "=") (row [op "=", g.anyType]), g.conditions, op ";"]

def namedFields (g : Grammar) : Reader Tokens :=
  commaGroup .brace (row [g.attributes, visibility, name, op ":", g.anyType])

def unnamedFields (g : Grammar) : Reader Tokens :=
  commaGroup .paren (row [g.attributes, visibility, g.anyType])

def structItem (g : Grammar) : Reader Tokens := do
  let front ← row [word "struct", name, g.parameters]
  if ← sees (.group .paren) then return front ++ (← row [g.unnamedFields, g.conditions, op ";"])
  let conditions ← g.conditions
  let body ← if ← sees (.op ";") then op ";" else g.namedFields
  return front ++ conditions ++ body

def variant (g : Grammar) : Reader Tokens := do
  let fields := do
    if ← sees (.group .brace) then g.namedFields
    else whenSees (.group .paren) g.unnamedFields
  row [g.attributes, visibility, name, fields, whenSees (.op "=") (row [op "=", g.value])]

def enumItem (g : Grammar) : Reader Tokens :=
  row [word "enum", name, g.parameters, g.conditions, commaGroup .brace g.variant]

def unionItem (g : Grammar) : Reader Tokens :=
  row [word "union", name, g.parameters, g.conditions, g.namedFields]

def otherName : Reader Tokens := do
  whenSees (.word "as") (row [word "as", do if ← sees (.word "_") then anyWord else name])

/-- A tree of imports, in which names branch only between braces. -/
def importsFrom : Nat → Reader Tokens
  | 0 => failure
  | n + 1 => do
    if ← seesAny (.name :: .word "try" :: pathWords) then
      let own ← anyWord
      if ← sees (.op "::") then row [return own, op "::", importsFrom n]
      else return own ++ (← otherName)
    else if ← sees (.op "*") then op "*"
    else commaGroup .brace (row [maybeOp "::", importsFrom n])

def importItem : Reader Tokens := do
  let depth := Lexeme.sizeAll (← get) + 1
  row [word "use", maybeOp "::", importsFrom depth, op ";"]

/-- A call of a macro, which a semicolon ends unless it has braces. -/
def callItem : Reader Tokens := do
  let front ← row [plainPath, op "!", whenSees .anyWord anyWord]
  let hasBraces ← sees (.group .brace)
  let body ← anyGroup
  return front ++ body ++ (← if hasBraces then maybeOp ";" else op ";")

def items (g : Grammar) : Reader Tokens :=
  group .brace (row [g.innerAttributes, untilSees .nothing (row [g.attributes, g.item])])

def moduleItem (g : Grammar) : Reader Tokens :=
  row [maybeWord "unsafe", word "mod", name,
    do if ← sees (.op ";") then op ";" else g.items]

def traitItem (g : Grammar) : Reader Tokens := do
  let front ← row [maybeWord "unsafe", maybeWord "auto", word "trait", name, g.parameters]
  if ← sees (.op "=") then
    let stop := [.word "where", Sign.op ";"]
    return front ++ (← row [op "=", bounds stop g.plainBound, g.conditions, op ";"])
  else
    let stop := [.word "where", Sign.group .brace]
    return front ++ (← row [colonBounds stop g.plainBound, g.conditions, g.items])

def implItem (g : Grammar) : Reader Tokens := do
  let front ← row [maybeWord "default", maybeWord "unsafe"]
  let hasParameters ← seesParameters
  let own ← word "impl"
  let parameters ← if hasParameters then g.parameters else pure []
  let mark ← row [maybeWord "const", maybeOp "!"]
  let types ← row [g.anyType, whenSees (.word "for") (row [word "for", g.anyType])]
  return front ++ own ++ parameters ++ mark ++ types ++ (← row [g.conditions, g.items])

def externItem (g : Grammar) : Reader Tokens := do
  if ← seesBehind 1 (.word "crate") then
    let own := do if ← sees (.word "self") then anyWord else name
    row [anyWord, anyWord, own, otherName, op ";"]
  else row [maybeWord "unsafe", linkage, g.items]

def anyItem (g : Grammar) : Reader Tokens := do
  let scope ← visibility
  let isDefault := (← seesBehind 1 .anyWord) && !(← seesBehind 1 (.word "impl"))
  let own := scope ++ (← if isDefault then maybeWord "default" else pure [])
  let isUnsafe ← sees (.word "unsafe")
  let next (text : String) : Reader Bool := do
    return (← sees (.word text)) || (isUnsafe && (← seesBehind 1 (.word text)))
  let rest ←
    if ← seesSignature then g.function
    else if ← next "extern" then g.externItem
    else if ← sees (.word "use") then importItem
    else if ← sees (.word "static") then g.staticItem
    else if ← sees (.word "const") then g.constantItem
    else if ← next "mod" then g.moduleItem
    else if ← sees (.word "type") then g.typeItem
    else if ← sees (.word "struct") then g.structItem
    else if ← sees (.word "enum") then g.enumItem
    else if ← seesWordBefore "union" [.name] then g.unionItem
    else if (← next "trait") || (← next "auto") then g.traitItem
    else if (← next "impl") || (← seesWordBefore "default" [.word "impl"]) then g.implItem
    else
      require own.isEmpty
      callItem
  return own ++ rest

end ProtoRules.Rust.Grammar
