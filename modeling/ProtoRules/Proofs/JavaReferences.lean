import ProtoRules.Emit.JavaBody
import ProtoRules.Proofs.JavaEntries

/-!
References of Java statements: the constants and the errors that the calls in them are handed. What
statements refer to is told from the rules that they were written for, one way of writing after the
other.
-/

namespace ProtoRules.Java

namespace Statement

mutual

def operands : Statement → List Operand
  | note _ => []
  | call _ _ operands => operands
  | delegate _ _ => []
  | required _ error _ => [error]
  | block _ body => operandsAll body
  | forEach _ _ _ body => operandsAll body
  | unwrapped _ body missing => operandsAll body ++ missing.toList

def operandsAll : List Statement → List Operand
  | [] => []
  | s :: ss => operands s ++ operandsAll ss

end

private theorem operandsAll_eq_flatMap (ss : List Statement) :
    operandsAll ss = ss.flatMap operands := by
  induction ss with
  | nil => rfl
  | cons s ss ih => rw [operandsAll, ih, List.flatMap_cons]

private theorem operandsAll_append (ss ts : List Statement) :
    operandsAll (ss ++ ts) = operandsAll ss ++ operandsAll ts := by
  simp only [operandsAll_eq_flatMap, List.flatMap_append]

private theorem operandsAll_singleton (s : Statement) : operandsAll [s] = operands s := by
  rw [operandsAll, operandsAll, List.append_nil]

private theorem operandsAll_guarded (condition : Option String) (body : List Statement) :
    operandsAll (guarded condition body) = operandsAll body := by
  cases condition with
  | none => cases body <;> rfl
  | some condition =>
      cases body with
      | nil => rfl
      | cons s ss => rw [guarded, operandsAll_singleton, operands]; simp

theorem operandsAll_forAll (method target parameter : String) (body : List Statement) :
    operandsAll (forAll method target parameter body) = operandsAll body := by
  cases body with
  | nil => rfl
  | cons s ss => exact operandsAll_singleton _

end Statement

open Statement

namespace Call

structure Uses (calls : List Call) (name : String → String) (labels : List String) : Prop where
  constants : ∀ n, Operand.constant n ∈ calls.flatMap Call.operands ↔ n ∈ labels.map name
  plain : ∀ n spec, Operand.error n spec ∉ calls.flatMap Call.operands

namespace Uses

variable {calls others : List Call} {name : String → String} {labels rest : List String}

theorem append (first : Uses calls name labels) (second : Uses others name rest) :
    Uses (calls ++ others) name (labels ++ rest) where
  constants n := by
    rw [List.flatMap_append, List.mem_append, first.constants, second.constants, List.map_append,
      List.mem_append]
  plain n spec := by
    rw [List.flatMap_append, List.mem_append]
    exact not_or.mpr ⟨first.plain n spec, second.plain n spec⟩

theorem beside (uses : Uses calls name labels) (idle : Uses others name []) :
    Uses (calls ++ others) name labels := by
  simpa using uses.append idle

theorem congr (uses : Uses calls name labels) (same : ∀ label, label ∈ labels ↔ label ∈ rest) :
    Uses calls name rest where
  constants n := by
    rw [uses.constants, List.mem_map, List.mem_map]
    simp only [same]
  plain := uses.plain

theorem nil (name : String → String) : Uses [] name [] :=
  ⟨by simp, by simp⟩

variable {α : Type}

theorem code (method : String) (value : Option α) (text : α → String) :
    Uses (optional method value fun v => .code (text v)) name [] := by
  cases value <;> exact ⟨by simp [optional], by simp [optional]⟩

theorem flag (method : String) (flag : Bool) : Uses (ofFlag method flag) name [] := by
  cases flag <;> exact ⟨by simp [ofFlag], by simp [ofFlag]⟩

theorem format (value : Option α) (method : α → String) :
    Uses (value.map fun v => ⟨method v, []⟩).toList name [] := by
  cases value <;> exact ⟨by simp, by simp⟩

theorem named (method : String) (value : Option α) (label : String) :
    Uses (named method value (name label)) name (declaredLabels [(label, value)]) := by
  cases value <;>
    exact ⟨by simp [Call.named, optional, declaredLabels], by simp [Call.named, optional]⟩

theorem sets (allowed denied : List α) :
    Uses (Call.sets name allowed denied) name (setLabels allowed denied) := by
  cases allowed <;> cases denied <;>
    exact ⟨by simp [Call.sets, setLabels], by simp [Call.sets]⟩

theorem bounds (comparator : String) (b : Bounds α) :
    Uses (Call.bounds name comparator b) name
      (declaredLabels [("Lt", b.lt), ("Lte", b.lte), ("Gt", b.gt), ("Gte", b.gte)]) := by
  obtain ⟨_, lt, lte, gt, gte⟩ := b
  cases lt <;> cases lte <;> cases gt <;> cases gte <;>
    exact ⟨by simp [Call.bounds, declaredLabels, nullOperand],
      by simp [Call.bounds, nullOperand]⟩

theorem ordered (comparator : String) (b : Bounds α) :
    Uses (Call.const name b.const ++ Call.bounds name comparator b) name (boundLabels b) :=
  (named _ b.const "Const").append (bounds comparator b)

theorem ofNumeric (r : NumericRule α) :
    Uses (Call.ofNumeric name r) name (boundLabels r.bounds ++ setLabels r.allowed r.denied) :=
  (ordered naturalOrder r.bounds).append (sets r.allowed r.denied)

theorem ofDuration (r : DurationRule) :
    Uses (Call.ofDuration name r) name (boundLabels r.bounds ++ setLabels r.allowed r.denied) :=
  (ordered durationOrder r.bounds).append (sets r.allowed r.denied)

theorem ofTimestamp (r : TimestampRule) :
    Uses (Call.ofTimestamp name r) name
      (boundLabels r.bounds ++ declaredLabels [("Within", r.within)]) := by
  have now : ∀ (condition : Bool) (method : String),
      Uses (if condition then [⟨method, [currentTime, .code timestampOrder]⟩] else []) name [] := by
    intro condition method
    cases condition <;> exact ⟨by simp [currentTime], by simp [currentTime]⟩
  have within : Uses (r.within.map fun _ =>
      ⟨"TimestampValidation.within", [.constant (name "Within"), currentTime]⟩).toList name
        (declaredLabels [("Within", r.within)]) := by
    cases r.within <;>
      exact ⟨by simp [declaredLabels, currentTime], by simp [currentTime]⟩
  exact (((ordered timestampOrder r.bounds).beside (now r.ltNow _)).beside (now r.gtNow _)).append
    within

theorem ofString (r : StringRule) :
    Uses (Call.ofString name r) name
      (setLabels r.allowed r.denied ++ declaredLabels [("Pattern", r.effectivePattern?)]) := by
  unfold Call.ofString
  -- The calls are taken off from the last to the first.
  refine .beside ?_ (format _ _)
  iterate 4 refine .beside ?_ (code _ _ _)
  refine .append ?_ (named _ _ _)
  iterate 6 refine .beside ?_ (code _ _ _)
  exact (code _ _ _).append (sets _ _)

theorem ofBytes (r : BytesRule) :
    Uses (Call.ofBytes name r) name
      (declaredLabels [("Const", r.const)] ++ setLabels r.allowed r.denied ++
        declaredLabels [("Pattern", r.pattern)] ++ partLabels r) := by
  have parts : Uses (Call.ofBytes name r) name
      (declaredLabels [("Const", r.const)] ++ declaredLabels [("Pattern", r.pattern)] ++
        declaredLabels [("Prefix", r.startsWith)] ++ declaredLabels [("Contains", r.contains)] ++
        declaredLabels [("Suffix", r.endsWith)] ++ setLabels r.allowed r.denied) := by
    unfold Call.ofBytes
    refine .append ?_ (sets _ _)
    refine .beside ?_ (format _ _)
    iterate 4 refine .append ?_ (named _ _ _)
    iterate 3 refine .beside ?_ (code _ _ _)
    exact named _ _ _
  refine parts.congr fun label => ?_
  simp only [partLabels, declaredLabels, List.flatMap_cons, List.flatMap_nil, List.mem_append]
  grind

theorem ofEnum (type : String) (r : EnumRule) :
    Uses (Call.ofEnum type name r) name (setLabels r.allowed r.denied) :=
  ((code _ r.const _).beside (flag _ r.definedOnly)).append (sets r.allowed r.denied)

theorem ofRepeated {ρ : Type} (r : RepeatedRule ρ) : Uses (Call.ofRepeated r) name [] :=
  ((code _ r.minItems _).beside (code _ r.maxItems _)).beside (flag _ r.unique)

theorem ofMap {ρ : Type} (r : MapRule ρ) : Uses (Call.ofMap r) name [] :=
  ((code _ r.minPairs _).beside (code _ r.maxPairs _)).beside (flag _ r.noSparse)

end Uses

end Call

/-- What statements refer to: the constants of these names, and errors such that each name stands
for the error that is to be raised. -/
structure Refers (ss : List Statement) (names : List String) (raised : String → ErrorSpec → Prop) :
    Prop where
  constants : ∀ name, Operand.constant name ∈ operandsAll ss ↔ name ∈ names
  errors : ∀ name spec, Operand.error name spec ∈ operandsAll ss → raised name spec

def Raised (c : Context) (alternative : Nat) (own : Option ErrorSpec) (name : String)
    (spec : ErrorSpec) : Prop :=
  name = errorName c alternative ∧ c.error own = some spec

namespace Refers

variable {ss ts : List Statement} {names others : List String}
  {raised weaker : String → ErrorSpec → Prop}

theorem idle (nothing : operandsAll ss = []) : Refers ss [] raised := by
  constructor <;> simp [nothing]

theorem nil : Refers [] [] raised :=
  idle rfl

theorem append (first : Refers ss names raised) (second : Refers ts others raised) :
    Refers (ss ++ ts) (names ++ others) raised where
  constants name := by
    rw [operandsAll_append, List.mem_append, first.constants, second.constants, List.mem_append]
  errors name spec := by
    rw [operandsAll_append, List.mem_append]
    exact fun member => member.elim (first.errors name spec) (second.errors name spec)

theorem beside (refers : Refers ss names raised) (nothing : operandsAll ts = []) :
    Refers (ss ++ ts) names raised := by
  simpa using refers.append (idle nothing)

theorem mono (refers : Refers ss names raised)
    (implied : ∀ name spec, raised name spec → weaker name spec) : Refers ss names weaker :=
  ⟨refers.constants, fun name spec member => implied name spec (refers.errors name spec member)⟩

theorem congr (refers : Refers ss names raised) (same : ∀ name, name ∈ names ↔ name ∈ others) :
    Refers ss others raised :=
  ⟨fun name => (refers.constants name).trans (same name), refers.errors⟩

theorem guarded (refers : Refers ss names raised) (condition : Option String) :
    Refers (Statement.guarded condition ss) names raised := by
  constructor <;> rw [operandsAll_guarded]
  · exact refers.constants
  · exact refers.errors

theorem forAll (refers : Refers ss names raised) (method target parameter : String) :
    Refers (Statement.forAll method target parameter ss) names raised := by
  constructor <;> rw [operandsAll_forAll]
  · exact refers.constants
  · exact refers.errors

theorem required {name : String} {spec : ErrorSpec} (known : raised name spec)
    (condition accessor : String) :
    Refers [.required condition (.error name spec) accessor] [] raised := by
  refine ⟨fun n => ?_, fun n s member => ?_⟩
  · simp [operandsAll_singleton, operands]
  · rw [operandsAll_singleton, operands, List.mem_singleton] at member
    cases member
    exact known

theorem unwrapped (refers : Refers ss names raised) (condition : String)
    {missing : Option Operand}
    (known : ∀ o ∈ missing, ∃ name spec, o = .error name spec ∧ raised name spec) :
    Refers [.unwrapped condition ss missing] names raised := by
  refine ⟨fun n => ?_, fun n s member => ?_⟩
  · rw [← refers.constants n, operandsAll_singleton, operands.eq_def, List.mem_append,
      Option.mem_toList, or_iff_left]
    intro member
    obtain ⟨name, spec, same, _⟩ := known _ member
    cases same
  · rw [operandsAll_singleton, operands.eq_def, List.mem_append, Option.mem_toList] at member
    rcases member with member | member
    · exact refers.errors n s member
    · obtain ⟨name, spec, same, known⟩ := known _ member
      cases same
      exact known

theorem concatM {α : Type} {f : α → Rendered (List Statement)} {xs : List α}
    {names : α → List String}
    (each : ∀ x ∈ xs, ∀ part, f x = .ok part → Refers part (names x) raised)
    (written : ProtoRules.concatM f xs = .ok ss) : Refers ss (xs.flatMap names) raised := by
  induction xs generalizing ss with
  | nil =>
      cases written
      exact nil
  | cons x xs ih =>
      simp only [ProtoRules.concatM, bind_eq_ok_iff, pure_eq_ok_iff] at written
      obtain ⟨part, first, rest, later, rfl⟩ := written
      obtain ⟨one, more⟩ := List.forall_mem_cons.mp each
      rw [List.flatMap_cons]
      exact (one part first).append (ih more later)

end Refers

section Alternative

variable {c : Context} {alternative : Nat} {own : Option ErrorSpec} {ss : List Statement}

theorem raised_of_errorOperand {operand : Operand}
    (written : errorOperand c alternative own = .ok operand) :
    ∃ name spec, operand = .error name spec ∧ Raised c alternative own name spec := by
  unfold errorOperand at written
  split at written
  · cases written
  · rename_i spec selected
    cases written
    exact ⟨_, spec, rfl, rfl, selected⟩

theorem callStatements_refers {condition : Option String} {subject : String} {calls : List Call}
    {labels : List String} (uses : Call.Uses calls (constantName c · alternative) labels)
    (written : callStatements c alternative own condition subject calls = .ok ss) :
    Refers ss (labels.map (constantName c · alternative)) (Raised c alternative own) := by
  unfold callStatements at written
  split at written
  · rename_i idle
    cases written
    rw [List.isEmpty_iff] at idle
    subst idle
    exact ⟨fun name => by simpa [operandsAll] using uses.constants name, Refers.nil.errors⟩
  · simp only [bind_eq_ok_iff, pure_eq_ok_iff] at written
    obtain ⟨operand, selected, rfl⟩ := written
    obtain ⟨name, spec, rfl, raised⟩ := raised_of_errorOperand selected
    refine ⟨fun n => ?_, fun n s member => ?_⟩
    · rw [← uses.constants n, operandsAll_eq_flatMap, List.flatMap_map]
      simp [operands]
    · rw [operandsAll_eq_flatMap, List.flatMap_map] at member
      obtain ⟨call, inside, handed⟩ := List.mem_flatMap.mp member
      have plain := uses.plain n s
      simp only [List.mem_flatMap, not_exists, not_and] at plain
      simp only [operands, List.mem_cons, plain call inside, reduceCtorEq, or_false] at handed
      cases handed
      exact raised

private theorem requiredStatement_refers {isRequired : Bool}
    (written : requiredStatement c alternative own isRequired = .ok ss) :
    Refers ss [] (Raised c alternative own) := by
  unfold requiredStatement at written
  split at written
  · simp only [bind_eq_ok_iff, pure_eq_ok_iff] at written
    obtain ⟨operand, selected, rfl⟩ := written
    obtain ⟨name, spec, rfl, raised⟩ := raised_of_errorOperand selected
    exact .required raised _ _
  · cases written
    exact .nil

end Alternative

def RaisedAmong (c : Context) (es : List Entry) (name : String) (spec : ErrorSpec) : Prop :=
  ∃ i e, es[i]? = some e ∧ Raised c i e.error name spec

variable {c : Context}

private theorem alternativeStatements_refers {α : Type} {rules : List α}
    {statements : α → Nat → Rendered (List Statement)} {entry : α → Entry} {ss : List Statement}
    (each : ∀ r i part, statements r i = .ok part →
      Refers part ((entry r).names c i) (Raised c i (entry r).error))
    (written : alternativeStatements rules statements = .ok ss) :
    Refers ss (entryNames c (rules.map entry)) (RaisedAmong c (rules.map entry)) := by
  rw [entryNames_map]
  refine Refers.concatM ?_ written
  rintro ⟨r, i⟩ member part one
  have position := List.mk_mem_zipIdx_iff_getElem?.mp member
  refine (each r i part one).mono fun name spec raised => ⟨i, entry r, ?_, raised⟩
  rw [List.getElem?_map, position, Option.map_some]

theorem valueStatements_refers {schema : Schema} {v : ValueRules} {ss : List Statement}
    (written : valueStatements schema c v = .ok ss) :
    Refers ss (entryNames c (entries v)) (RaisedAmong c (entries v)) := by
  unfold valueStatements at written
  cases v with
  | any rules =>
      refine alternativeStatements_refers (fun r i part one => ?_) written
      simp only [bind_eq_ok_iff, pure_eq_ok_iff] at one
      obtain ⟨required, first, calls, second, rfl⟩ := one
      exact (requiredStatement_refers first).append (callStatements_refers (.sets _ _) second)
  | bool r =>
      have refers := callStatements_refers (.code _ _ _) written
      exact ⟨refers.constants, fun name spec member => ⟨0, _, rfl, refers.errors _ _ member⟩⟩
  | bytes rules =>
      refine alternativeStatements_refers (fun r i part one => ?_) written
      simp only [bind_eq_ok_iff, pure_eq_ok_iff] at one
      obtain ⟨calls, second, rfl⟩ := one
      exact (callStatements_refers (.ofBytes r) second).guarded _
  | duration rules =>
      refine alternativeStatements_refers (fun r i part one => ?_) written
      simp only [bind_eq_ok_iff, pure_eq_ok_iff] at one
      obtain ⟨required, first, calls, second, rfl⟩ := one
      exact (requiredStatement_refers first).append (callStatements_refers (.ofDuration r) second)
  | enum rules =>
      obtain ⟨type, _, written⟩ := bind_eq_ok_iff.mp written
      refine alternativeStatements_refers (fun r i part one => ?_) written
      exact callStatements_refers (.ofEnum type r) one
  | numeric k rules =>
      refine alternativeStatements_refers (fun r i part one => ?_) written
      simp only [bind_eq_ok_iff, pure_eq_ok_iff] at one
      obtain ⟨calls, second, rfl⟩ := one
      exact (callStatements_refers (.ofNumeric r) second).guarded _
  | string rules =>
      refine alternativeStatements_refers (fun r i part one => ?_) written
      simp only [bind_eq_ok_iff, pure_eq_ok_iff] at one
      obtain ⟨calls, second, rfl⟩ := one
      exact (callStatements_refers (.ofString r) second).guarded _
  | timestamp rules =>
      refine alternativeStatements_refers (fun r i part one => ?_) written
      simp only [bind_eq_ok_iff, pure_eq_ok_iff] at one
      obtain ⟨required, first, calls, second, rfl⟩ := one
      exact (requiredStatement_refers first).append (callStatements_refers (.ofTimestamp r) second)

end ProtoRules.Java
