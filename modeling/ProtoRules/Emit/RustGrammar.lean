import ProtoRules.Emit.RustReader

/-!
The parts of the grammar that contain each other. Readers of one part take the readers of the others
from a record, so that each kind of phrase can be described on its own.
-/

namespace ProtoRules.Rust

inductive Arguments
  | absent
  | angled (text : Tokens) (isEmpty : Bool)
  | parenthesized (text : Tokens)

namespace Arguments

def tokens : Arguments → Tokens
  | absent => []
  | angled text _ => text
  | parenthesized text => text

def areEmpty : Arguments → Bool
  | absent => true
  | angled _ isEmpty => isEmpty
  | parenthesized _ => false

end Arguments

structure Segment where
  name : Tokens
  arguments : Arguments

/-- Segments behind what they start from: nothing, the root, or a type. -/
structure Path where
  front : Tokens
  isOfType : Bool
  segments : List Segment

namespace Path

def tokens (p : Path) : Tokens :=
  p.front ++ [Token.op "::"].intercalate (p.segments.map fun s => s.name ++ s.arguments.tokens)

def endsBare (p : Path) : Bool :=
  p.segments.getLast?.all (·.arguments.areEmpty)

def withArguments (p : Path) (arguments : Arguments) : Path :=
  { p with
    segments := p.segments.dropLast ++
      p.segments.getLast?.toList.map fun s => { s with arguments := arguments } }

def isPlain (p : Path) : Bool :=
  !p.isOfType && p.segments.all fun s => match s.arguments with
    | .absent => true
    | _ => false

end Path

/-- Tokens of a phrase, and what it is as far as phrases around it ask. -/
structure Phrase (form : Type) where
  form : form
  tokens : Tokens

inductive BoundForm
  | lifetime
  | trait
  | capture
deriving DecidableEq, Repr

inductive TypeForm
  /-- A path of one segment, which has no arguments in parentheses. -/
  | name
  | path
  /-- One bound that stands for the objects it holds of; its tokens without parentheses. -/
  | bound (bare : Tokens)
  | parens
  | other

inductive ExpressionForm
  | range
  | comparison
  /-- An expression that ends a statement by itself. -/
  | block
  | call (braces : Bool)
  | other
deriving DecidableEq, Repr

inductive PatternForm
  | openRange
  | other
deriving DecidableEq, Repr

inductive Precedence
  | jump
  | assign
  | range
  | or
  | and
  | binding
  | compare
  | bitOr
  | bitXor
  | bitAnd
  | shift
  | sum
  | product
  | cast
deriving DecidableEq, Repr

namespace Precedence

def rank : Precedence → Nat
  | jump => 0
  | assign => 1
  | range => 2
  | or => 3
  | and => 4
  | binding => 5
  | compare => 6
  | bitOr => 7
  | bitXor => 8
  | bitAnd => 9
  | shift => 10
  | sum => 11
  | product => 12
  | cast => 13

end Precedence

def Path.form (p : Path) : TypeForm :=
  match p.isOfType, p.front, p.segments with
  | true, _, _ => .other
  | false, [], [⟨_, .parenthesized _⟩] => .path
  | false, [], [_] => .name
  | false, _, _ => .path

/-- The readers of phrases that contain each other. -/
structure Grammar where
  arguments : Reader Arguments
  /-- A bound. It may be a capture or ask for constant functions if that is allowed. -/
  bound : (captures const : Bool) → Reader (Phrase BoundForm)
  type : Bool → Reader (Phrase TypeForm)
  /-- An expression in which a path may be followed by fields in braces if that is allowed. -/
  expression : Bool → Reader (Phrase ExpressionForm)
  unary : Bool → Reader (Phrase ExpressionForm)
  /-- What an expression becomes by operators behind it that bind no looser than one. -/
  extended : Bool → Precedence → Phrase ExpressionForm → Reader (Phrase ExpressionForm)
  /-- An expression at the beginning of a statement, where one with braces ends by itself. -/
  leading : Reader (Phrase ExpressionForm)
  pattern : Reader (Phrase PatternForm)
  statements : Reader Tokens
  item : Reader Tokens

namespace Grammar

open Reader

def empty : Grammar where
  arguments := failure
  bound _ _ := failure
  type _ := failure
  expression _ := failure
  unary _ := failure
  extended _ _ _ := failure
  leading := failure
  pattern := failure
  statements := failure
  item := failure

def value (g : Grammar) : Reader Tokens :=
  return (← g.expression true).tokens

def anyType (g : Grammar) : Reader Tokens :=
  return (← g.type true).tokens

def pathWords : List Sign :=
  [.word "super", .word "self", .word "Self", .word "crate"]

def plainSegment : Reader Tokens := do
  if ← seesAny pathWords then anyWord else name

def plainPath : Reader Tokens :=
  row [maybeOp "::", plainSegment, whileSees (.op "::") (row [op "::", plainSegment])]

def attributeBody (g : Grammar) : Reader Tokens := do
  let path ← if ← sees (.word "unsafe") then anyWord else plainPath
  if ← sees (.op "=") then
    let equals ← op "="
    if (← sees .literal) && (← seesBehind 1 .nothing) then
      return path ++ equals ++ (← literal)
    require !((← sees (.op "#")) && (← seesBehind 1 (.group .square)))
    return path ++ equals ++ (← g.value)
  if ← sees .nothing then return path else return path ++ (← anyGroup)

def attributes (g : Grammar) : Reader Tokens :=
  whileSees (.op "#") (row [op "#", group .square g.attributeBody])

def innerAttributesFrom (g : Grammar) : Nat → Reader Tokens
  | 0 => failure
  | n + 1 => do
    if (← sees (.op "#")) && (← seesBehind 1 (.op "!")) then
      row [op "#", op "!", group .square g.attributeBody, innerAttributesFrom g n]
    else return []

def innerAttributes (g : Grammar) : Reader Tokens := do
  innerAttributesFrom g ((← get).length + 1)

def block (g : Grammar) : Reader Tokens :=
  group .brace g.statements

def attributedBlock (g : Grammar) : Reader Tokens :=
  group .brace (row [g.innerAttributes, g.statements])

end Grammar

end ProtoRules.Rust
