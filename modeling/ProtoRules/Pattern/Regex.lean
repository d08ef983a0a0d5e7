import ProtoRules.Pattern.Automaton
import ProtoRules.Pattern.Reader
import ProtoRules.Pattern.Simple

/-!
Which texts are regular expressions.
-/

namespace ProtoRules.Pattern

def depthLimit : Nat := 250

/-- Whether a text is a regular expression: a tree that is not too deep, all of whose parts are
allowed, and whose automaton is not too large. -/
def isValid (pattern : String) : Bool :=
  match read? pattern with
  | none => false
  | some n => n.depth ≤ depthLimit && (n.simplify? {}).any fun (e, _) => e.isSmall

end ProtoRules.Pattern
