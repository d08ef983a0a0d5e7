import ProtoRules.Check.Fault

/-!
Rules that must not meet on one field, whichever alternatives declare them. The names declared so
far are kept in order; a new name is refused if it is among them or excluded by one of them.
-/

namespace ProtoRules

structure Exclusions where
  alone : List String
  pairs : List (String × String)
deriving DecidableEq, Repr

namespace Exclusions

def excludes (t : Exclusions) (a b : String) : Bool :=
  t.alone.contains a || t.alone.contains b || t.pairs.contains (a, b) || t.pairs.contains (b, a)

/-- One more declaration: whether it is allowed, and the names declared after it, which are the same
as before if it is refused. A repetition is reported before an exclusion, and of several excluding
rules the earliest. -/
def declare (t : Exclusions) (seen : List String) (rule : String) :
    Except Conflict Unit × List String :=
  if seen.contains rule then (.error (.repeatedRule rule), seen)
  else
    match seen.find? (t.excludes rule) with
    | some other => (.error (.together rule other), seen)
    | none => (.ok (), seen ++ [rule])

/-- Declarations up to the first that is refused. -/
def declareAll (t : Exclusions) (seen : List String) :
    List String → Except Conflict (List String)
  | [] => .ok seen
  | rule :: rest =>
    match t.declare seen rule with
    | (.ok (), names) => declareAll t names rest
    | (.error e, _) => .error e

end Exclusions

def named (name : String) (declared : Bool) : List String :=
  if declared then [name] else []

end ProtoRules
