import ProtoRules.Emit.RustItem

/-!
Reading Rust paths from text. A text is cut into lexemes, and these have to be one path to their
end.
-/

namespace ProtoRules.Rust

namespace Grammar

def ofDepth : Nat → Grammar
  | 0 => empty
  | n + 1 =>
    let g := ofDepth n
    { arguments := g.angled
      bound := g.anyBound
      type := g.anyKindOfType
      expression := g.anyExpression
      unary := g.anyUnary
      extended := g.anyExtended
      leading := g.anyLeading
      pattern := g.onePattern
      statements := g.allStatements
      item := g.anyItem }

/-- How many readers may call each other before one of them takes a lexeme. -/
def callsPerLexeme : Nat := 8

def ofLexemes (ls : List Lexeme) : Grammar :=
  ofDepth (callsPerLexeme * (Lexeme.sizeAll ls + 1))

end Grammar

def path? (text : String) : Option Tokens := do
  let ls ← lexemes? text
  let (p, rest) ← (Grammar.ofLexemes ls).path false ls
  if rest.isEmpty then some p.tokens else none

end ProtoRules.Rust
