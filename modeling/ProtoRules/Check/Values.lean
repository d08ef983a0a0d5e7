import ProtoRules.Check.Bounds
import ProtoRules.Descriptor.Schema
import ProtoRules.Pattern.Regex
import ProtoRules.Rules.WellKnownPattern

/-!
Consistency of the rules on single values. The alternatives are taken in order; each is tested by
itself and against the names that earlier ones declare.
-/

namespace ProtoRules

def checkAlternatives {α : Type} (rules : List α)
    (check : List String → α → Except CheckError (List String)) : Verdict := do
  discard (rules.foldlM check [])

def Length.shown (name : String) (n : Length) : ShownBound := ⟨name, n.text⟩

def checkMinMax (min max : Option Length) (minName maxName : String) : Verdict :=
  match min, max with
  | some a, some b =>
    Verdict.require (a.val ≤ b.val) (.conflict (.minAboveMax (a.shown minName) (b.shown maxName)))
  | _, _ => Verdict.accept

def checkLen (len min max : Option Length) (lenName minName maxName : String) : Verdict := do
  if len.isSome then
    Verdict.require min.isNone (.conflict (.together lenName minName))
    Verdict.require max.isNone (.conflict (.together lenName maxName))

def checkPattern (pattern : Option String) (allowed : Nat) : Verdict :=
  match pattern with
  | none => Verdict.accept
  | some p => do
    Verdict.require (allowed == 0) (.conflict .patternWithAllowed)
    Verdict.require (Pattern.isValid p) (.invalidPattern p)

def checkAffix (name : String) (size : Nat) (limitName : String) (limit : Option Length) :
    Verdict :=
  match limit with
  | none => Verdict.accept
  | some n => Verdict.require (size ≤ n.val)
      (.conflict (.affixTooLong ⟨name, toString size⟩ (n.shown limitName)))

def stringExclusions : Exclusions where
  alone := ["const"]
  pairs := [("len", "min_len"), ("len", "max_len"), ("len_bytes", "min_bytes"),
    ("len_bytes", "max_bytes"), ("in", "not_in"), ("in", "pattern"), ("pattern", "well_known")]

namespace StringRule

def declared (r : StringRule) : List String :=
  named "const" r.const.isSome ++ named "len" r.len.isSome ++ named "min_len" r.minLen.isSome ++
    named "max_len" r.maxLen.isSome ++ named "len_bytes" r.lenBytes.isSome ++
    named "min_bytes" r.minBytes.isSome ++ named "max_bytes" r.maxBytes.isSome ++
    named "pattern" r.pattern.isSome ++ named "prefix" r.startsWith.isSome ++
    named "suffix" r.endsWith.isSome ++ named "contains" r.contains.isSome ++
    named "not_contains" r.lacks.isSome ++ named "in" (!r.allowed.isEmpty) ++
    named "not_in" (!r.denied.isEmpty) ++ named "well_known" r.format.isSome

/-- A pattern that goes by a name stands for an explicit one, so there must not be both. -/
def checkKnownPattern (r : StringRule) : Verdict :=
  match r.knownPattern? with
  | none => Verdict.accept
  | some p =>
    Verdict.require ((p.resolve r.strict).isNone || r.pattern.isNone) (.conflict .knownWithPattern)

def checkPart (r : StringRule) (name : String) (part : Option String) : Verdict :=
  match part with
  | none => Verdict.accept
  | some s => do
    checkAffix name s.length "max_len" r.maxLen
    checkAffix name s.utf8ByteSize "max_bytes" r.maxBytes

def checkValues (r : StringRule) : Verdict := do
  checkLen r.len r.minLen r.maxLen "len" "min_len" "max_len"
  checkLen r.lenBytes r.minBytes r.maxBytes "len_bytes" "min_bytes" "max_bytes"
  checkMinMax r.minLen r.maxLen "min_len" "max_len"
  checkMinMax r.minBytes r.maxBytes "min_bytes" "max_bytes"
  match r.maxLen, r.maxBytes with
  | some chars, some bytes =>
    Verdict.require (chars.val ≤ bytes.val) (.conflict (.charsAboveBytes chars.text bytes.text))
  | _, _ => pure ()
  Conflict.lift (checkSets r.allowed.length r.denied.length)
  checkPattern r.effectivePattern? r.allowed.length
  r.checkPart "prefix" r.startsWith
  r.checkPart "suffix" r.endsWith
  r.checkPart "contains" r.contains

end StringRule

def checkString (inject : Bool) (rules : List StringRule) : Verdict :=
  checkAlternatives rules fun seen r => do
    checkError r.error inject RuleKind.string.keyword
    r.checkKnownPattern
    let seen ← Conflict.lift (stringExclusions.declareAll seen r.declared)
    r.checkValues
    return seen

def bytesExclusions : Exclusions where
  alone := ["const"]
  pairs := [("len", "min_len"), ("len", "max_len"), ("in", "not_in"), ("in", "pattern"),
    ("pattern", "well_known")]

namespace BytesRule

def declared (r : BytesRule) : List String :=
  named "const" r.const.isSome ++ named "len" r.len.isSome ++ named "min_len" r.minLen.isSome ++
    named "max_len" r.maxLen.isSome ++ named "pattern" r.pattern.isSome ++
    named "prefix" r.startsWith.isSome ++ named "suffix" r.endsWith.isSome ++
    named "contains" r.contains.isSome ++ named "in" (!r.allowed.isEmpty) ++
    named "not_in" (!r.denied.isEmpty) ++ named "well_known" r.format.isSome

def checkPart (r : BytesRule) (name : String) (part : Option Bytes) : Verdict :=
  checkAffix name (part.elim 0 List.length) "max_len" r.maxLen

def checkValues (r : BytesRule) : Verdict := do
  checkLen r.len r.minLen r.maxLen "len" "min_len" "max_len"
  checkMinMax r.minLen r.maxLen "min_len" "max_len"
  Conflict.lift (checkSets r.allowed.length r.denied.length)
  checkPattern r.pattern r.allowed.length
  r.checkPart "prefix" r.startsWith
  r.checkPart "suffix" r.endsWith
  r.checkPart "contains" r.contains

end BytesRule

def checkBytes (inject : Bool) (rules : List BytesRule) : Verdict :=
  checkAlternatives rules fun seen r => do
    checkError r.error inject RuleKind.bytes.keyword
    let seen ← Conflict.lift (bytesExclusions.declareAll seen r.declared)
    r.checkValues
    return seen

def setExclusions : List (String × String) := [("in", "not_in")]

def EnumRule.declared (r : EnumRule) : List String :=
  named "const" r.const.isSome ++ named "defined_only" r.definedOnly ++
    named "in" (!r.allowed.isEmpty) ++ named "not_in" (!r.denied.isEmpty)

/-- Every listed value must be one that the enum defines, if only those are valid. -/
def EnumRule.checkDefined (schema : Schema) (enumName : String) (r : EnumRule) : Verdict := do
  if r.definedOnly && !r.allowed.isEmpty then
    let e ← SchemaError.lift (schema.enumeration enumName)
    match r.allowed.find? (!e.isDefined ·) with
    | some value => Verdict.reject (.undefinedValue value.val)
    | none => pure ()

def checkEnum (schema : Schema) (enumName : String) (inject : Bool) (rules : List EnumRule) :
    Verdict :=
  checkAlternatives rules fun seen r => do
    checkError r.error inject RuleKind.enum.keyword
    let seen ← Conflict.lift (Exclusions.declareAll ⟨["const"], setExclusions⟩ seen r.declared)
    Conflict.lift (checkSets r.allowed.length r.denied.length)
    r.checkDefined schema enumName
    return seen

def AnyRule.declared (r : AnyRule) : List String :=
  named "required" r.required ++ named "in" (!r.allowed.isEmpty) ++
    named "not_in" (!r.denied.isEmpty)

def checkAny (inject : Bool) (rules : List AnyRule) : Verdict :=
  checkAlternatives rules fun seen r => do
    checkError r.error inject RuleKind.any.keyword
    let seen ← Conflict.lift (Exclusions.declareAll ⟨[], setExclusions⟩ seen r.declared)
    Conflict.lift (checkSets r.allowed.length r.denied.length)
    return seen

def DurationLiteral.check (rule : String) (d : DurationLiteral) : Except CheckError Int :=
  match d.totalNanos with
  | .ok n => .ok n
  | .error e => (CheckFault.malformedTemporal rule e).verdict

def TimestampLiteral.check (rule : String) (t : TimestampLiteral) : Except CheckError Int :=
  match t.unixNanos with
  | .ok n => .ok n
  | .error e => (CheckFault.malformedTemporal rule e).verdict

def DurationRule.declared (r : DurationRule) : List String :=
  named "required" r.required ++ r.bounds.declared ++ named "in" (!r.allowed.isEmpty) ++
    named "not_in" (!r.denied.isEmpty)

def checkDuration (inject : Bool) (rules : List DurationRule) : Verdict := do
  let tally ← rules.foldlM (fun (tally : Tally Int) r => do
    checkError r.error inject RuleKind.duration.keyword
    let bounds ← r.bounds.mapM DurationLiteral.check
    r.allowed.forM fun d => discard (d.check "in")
    r.denied.forM fun d => discard (d.check "not_in")
    Conflict.lift (checkNums r.allowed.length r.denied.length bounds)
    tally.add comparisonExclusions r.declared bounds) {}
  Conflict.lift (checkNums 0 0 tally.bounds)

/-- Bounds on a timestamp are absolute or relative to the present, never both. -/
def timestampExclusions : Exclusions where
  alone := ["const"]
  pairs := [("lt", "lte"), ("gt", "gte"), ("lt_now", "gt_now"), ("lt_now", "lt"),
    ("lt_now", "lte"), ("lt_now", "gt"), ("lt_now", "gte"), ("gt_now", "lt"), ("gt_now", "lte"),
    ("gt_now", "gt"), ("gt_now", "gte"), ("within", "lt"), ("within", "lte"), ("within", "gt"),
    ("within", "gte")]

def TimestampRule.declared (r : TimestampRule) : List String :=
  named "required" r.required ++ r.bounds.declared ++ named "lt_now" r.ltNow ++
    named "gt_now" r.gtNow ++ named "within" r.within.isSome

def checkWithin (within : Option DurationLiteral) : Verdict :=
  match within with
  | none => Verdict.accept
  | some d => do
    let nanos ← d.check "within"
    Verdict.require (0 < nanos) (.conflict .withinNotPositive)

def checkTimestamp (inject : Bool) (rules : List TimestampRule) : Verdict := do
  let tally ← rules.foldlM (fun (tally : Tally Int) r => do
    checkError r.error inject RuleKind.timestamp.keyword
    let bounds ← r.bounds.mapM TimestampLiteral.check
    checkWithin r.within
    Conflict.lift (checkNums 0 0 bounds)
    tally.add timestampExclusions r.declared bounds) {}
  Conflict.lift (checkNums 0 0 tally.bounds)

end ProtoRules
