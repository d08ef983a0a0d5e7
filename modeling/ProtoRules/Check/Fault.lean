import ProtoRules.Rules.Fault
import ProtoRules.Rules.Temporal

/-!
Why a rule set is rejected, and where. Faults are told apart by their cause; the wording of each is
given once, in `message`.
-/

namespace ProtoRules

structure ShownBound where
  name : String
  value : String
deriving DecidableEq, Repr

def ShownBound.text (b : ShownBound) : String :=
  quoted b.name ++ " (" ++ b.value ++ ")"

inductive Conflict
  | repeatedRule (rule : String)
  | together (rule other : String)
  | allowedWithRange
  | equalInclusive
  | equalBounds (low up : String)
  | inverted (low up : ShownBound)
  | noneBetween (low up : ShownBound)
  | oneBetween (low up : ShownBound) (only : String)
  | minAboveMax (min max : ShownBound)
  | charsAboveBytes (chars bytes : String)
  | patternWithAllowed
  | knownWithPattern
  | affixTooLong (affix limit : ShownBound)
  | withinNotPositive
  | skipWithTyped
deriving DecidableEq, Repr

namespace Conflict

def message : Conflict → String
  | repeatedRule rule => "cannot have multi " ++ quoted rule ++ " rules on the same field"
  | together rule other =>
    "cannot have both " ++ quoted rule ++ " and " ++ quoted other ++ " rules on the same field"
  | allowedWithRange =>
    "cannot have both " ++ quoted "in" ++ " and range constraint rules on the same field"
  | equalInclusive =>
    "use " ++ quoted "const" ++ " instead of equal " ++ quoted "lte" ++ " and " ++ quoted "gte" ++
      " rules"
  | equalBounds low up =>
    "cannot have equal " ++ quoted low ++ " and " ++ quoted up ++ " rules on the same field"
  | inverted low up =>
    up.text ++ " must be greater than " ++ low.text ++ ", the range is empty"
  | noneBetween low up =>
    low.text ++ " and " ++ up.text ++ " leave no value in between, the range is empty"
  | oneBetween low up only =>
    low.text ++ " and " ++ up.text ++ " only allow " ++ only ++ ", use " ++ quoted "const" ++
      " instead"
  | minAboveMax min max => min.text ++ " value is greater than " ++ max.text ++ " value"
  | charsAboveBytes chars bytes =>
    quoted "max_len" ++ " (" ++ chars ++ ") cannot exceed " ++ quoted "max_bytes" ++ " (" ++
      bytes ++ ")"
  | patternWithAllowed =>
    "regex " ++ quoted "pattern" ++ " and " ++ quoted "in" ++ " rules are incompatible"
  | knownWithPattern =>
    "regex " ++ quoted "well_known_regex" ++ " and regex " ++ quoted "pattern" ++
      " are incompatible"
  | affixTooLong affix limit =>
    quoted affix.name ++ " length (" ++ affix.value ++ ") exceeds the " ++ limit.text
  | withinNotPositive => quoted "within" ++ " rule must be positive"
  | skipWithTyped => "skip should not be used with WKT scalar rules"

end Conflict

inductive MissingError
  | blankMethod
  | undeclared (kind : String)
  | oneof
deriving DecidableEq, Repr

def MissingError.message : MissingError → String
  | blankMethod => "method to create error instance can not be empty"
  | undeclared kind => quoted kind ++ " rules must declare an error"
  | oneof => "required oneof must declare an error"

inductive Mismatch
  | onList
  | onMap
  | valueType (actual expected : ValueType)
  | notList
  | notMap
  | notWellKnown (expected : WellKnown)
  | notEmbedded
  | uniqueMessages
  | sparseScalars
deriving DecidableEq, Repr

def Mismatch.message : Mismatch → String
  | onList => "repeated rule should be used for repeated fields"
  | onMap => "map rule should be used for map fields"
  | valueType actual expected =>
    "expected rules for " ++ actual.keyword ++ " but got " ++ expected.keyword
  | notList => "repeated rules should be used for repeated fields"
  | notMap => "map rules should be used for map fields"
  | notWellKnown t => t.name ++ " rules should be used for " ++ t.fullName ++ " fields"
  | notEmbedded => "message rules should only be used for embedded message fields"
  | uniqueMessages => "unique rule is only applicable for scalar types"
  | sparseScalars => "no_sparse rule is only applicable for embedded message types"

inductive CheckFault
  | conflict (c : Conflict)
  | invalidPattern (pattern : String)
  | malformedTemporal (rule : String) (cause : TemporalError)
  | missingError (m : MissingError)
  | schema (e : SchemaError)
  | mismatch (m : Mismatch)
  | undefinedValue (value : Int)
  | wrongKind (t : WellKnown)
deriving DecidableEq, Repr

/-- The wording of a fault. Of a pattern that is no regular expression the reason is not told. -/
def CheckFault.message : CheckFault → String
  | conflict c => c.message
  | invalidPattern pattern => "unable to parse regex " ++ quoted pattern ++ ": <reason>"
  | malformedTemporal rule cause => "invalid " ++ quoted rule ++ " value: " ++ cause.message
  | missingError m => m.message
  | schema e => e.message
  | mismatch m => m.message
  | undefinedValue value =>
    "undefined " ++ quoted "in" ++ " value (" ++ toString value ++ ") conflicts with " ++
      quoted "defined_only" ++ " rule"
  | wrongKind t => t.name ++ " rules should be used for " ++ t.name ++ " fields"

/-- A fault with the route to it: file, message, field, and position inside the field. -/
structure CheckError where
  path : List String
  fault : CheckFault
deriving DecidableEq, Repr

namespace CheckError

def route (e : CheckError) : String :=
  " > ".intercalate e.path

def message (e : CheckError) : String :=
  e.route ++ ": " ++ e.fault.message

end CheckError

abbrev Verdict := Except CheckError Unit

namespace Verdict

def accept : Verdict := .ok ()

def reject (fault : CheckFault) : Verdict :=
  .error ⟨[], fault⟩

def require (holds : Bool) (fault : CheckFault) : Verdict :=
  if holds then accept else reject fault

def within (segment : String) : Verdict → Verdict
  | .ok () => .ok ()
  | .error e => .error { e with path := segment :: e.path }

@[simp] theorem within_eq_ok_iff {segment : String} {v : Verdict} :
    v.within segment = .ok () ↔ v = .ok () := by
  cases v <;> simp [within]

@[simp] theorem require_eq_ok_iff {holds : Bool} {fault : CheckFault} :
    require holds fault = .ok () ↔ holds = true := by
  cases holds <;> simp [require, accept, reject]

end Verdict

def CheckFault.verdict {α : Type} (fault : CheckFault) : Except CheckError α :=
  .error ⟨[], fault⟩

def Conflict.lift {α : Type} : Except Conflict α → Except CheckError α
  | .ok a => .ok a
  | .error c => (CheckFault.conflict c).verdict

def SchemaError.lift {α : Type} : Except SchemaError α → Except CheckError α
  | .ok a => .ok a
  | .error e => (CheckFault.schema e).verdict

end ProtoRules
