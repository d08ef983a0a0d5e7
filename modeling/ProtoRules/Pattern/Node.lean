import ProtoRules.Pattern.Expression
import ProtoRules.Pattern.Property

/-!
Regular expressions as trees, kept as they are written.
-/

namespace ProtoRules.Pattern

inductive Flag
  | caseInsensitive
  | multiLine
  | dotMatchesNewLine
  | swapGreed
  | unicode
  | crlf
  | ignoreWhitespace
deriving DecidableEq, Repr

structure Setting where
  flag : Flag
  isSet : Bool
deriving DecidableEq, Repr

structure Mode where
  unicode : Bool := true
  caseInsensitive : Bool := false
  multiLine : Bool := false
  dotMatchesNewLine : Bool := false
  swapGreed : Bool := false
  crlf : Bool := false
deriving DecidableEq, Repr

namespace Mode

def set (m : Mode) (s : Setting) : Mode :=
  match s.flag with
  | .unicode => { m with unicode := s.isSet }
  | .caseInsensitive => { m with caseInsensitive := s.isSet }
  | .multiLine => { m with multiLine := s.isSet }
  | .dotMatchesNewLine => { m with dotMatchesNewLine := s.isSet }
  | .swapGreed => { m with swapGreed := s.isSet }
  | .crlf => { m with crlf := s.isSet }
  | .ignoreWhitespace => m

def setAll (m : Mode) (settings : List Setting) : Mode :=
  settings.foldl set m

end Mode

structure Glyph where
  char : Char
  /-- Whether it is written as exactly two hexadecimal digits, and so may stand for a byte. -/
  isByte : Bool := false
deriving DecidableEq, Repr

def Glyph.isAscii (g : Glyph) : Bool :=
  g.char.toNat < 128

inductive ClassName
  | ascii (name : String)
  | digit
  | space
  | word
deriving DecidableEq, Repr

inductive Assertion
  | lineStart
  | lineEnd
  | textStart
  | textEnd
  | word (edge : WordEdge)
deriving DecidableEq, Repr

inductive SetOperator
  | intersection
  | difference
  | symmetricDifference
deriving DecidableEq, Repr

inductive SetNode
  | empty
  | glyph (g : Glyph)
  | range (first last : Glyph)
  | named (name : ClassName) (negated : Bool)
  | property (query : PropertyQuery) (negated : Bool)
  | bracket (negated : Bool) (body : SetNode)
  | union (items : List SetNode)
  | combination (op : SetOperator) (left right : SetNode)
deriving Repr

inductive Node
  | empty
  | settings (settings : List Setting)
  | glyph (g : Glyph)
  | dot
  | assertion (kind : Assertion)
  | named (name : ClassName) (negated : Bool)
  | property (query : PropertyQuery) (negated : Bool)
  | set (negated : Bool) (body : SetNode)
  | repetition (least : Nat) (most : Option Nat) (greedy : Bool) (body : Node)
  | group (settings : List Setting) (body : Node)
  | capture (index : Nat) (body : Node)
  | sequence (parts : List Node)
  | choice (branches : List Node)
deriving Repr

namespace SetNode

mutual

def depth : SetNode → Nat
  | bracket _ body => body.depth + 1
  | union items => depthAll items + 1
  | combination _ left right => max left.depth right.depth + 1
  | _ => 0

def depthAll : List SetNode → Nat
  | [] => 0
  | n :: ns => max n.depth (depthAll ns)

end

end SetNode

namespace Node

mutual

def depth : Node → Nat
  | set _ body => body.depth + 1
  | repetition _ _ _ body => body.depth + 1
  | group _ body => body.depth + 1
  | capture _ body => body.depth + 1
  | sequence parts => depthAll parts + 1
  | choice branches => depthAll branches + 1
  | _ => 0

def depthAll : List Node → Nat
  | [] => 0
  | n :: ns => max n.depth (depthAll ns)

end

end Node

end ProtoRules.Pattern
