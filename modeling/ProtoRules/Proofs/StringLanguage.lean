import ProtoRules.Proofs.Declarable
import ProtoRules.Proofs.SymbolicPatterns

/-!
The rules on strings that are accepted. It is enough to look at the errors, at what the alternatives
declare together, and at the values of each alternative by itself; some tests of single alternatives
find nothing that the declarations would not give away.
-/

namespace ProtoRules

namespace StringRule

def declarable : Declarable StringRule :=
  [("const", (·.const.isSome)), ("len", (·.len.isSome)), ("min_len", (·.minLen.isSome)),
    ("max_len", (·.maxLen.isSome)), ("len_bytes", (·.lenBytes.isSome)),
    ("min_bytes", (·.minBytes.isSome)), ("max_bytes", (·.maxBytes.isSome)),
    ("pattern", (·.pattern.isSome)), ("prefix", (·.startsWith.isSome)),
    ("suffix", (·.endsWith.isSome)), ("contains", (·.contains.isSome)),
    ("not_contains", (·.lacks.isSome)), ("in", (!·.allowed.isEmpty)),
    ("not_in", (!·.denied.isEmpty)), ("well_known", (·.format.isSome))]

theorem declarable_distinct : (declarable.map Prod.fst).Nodup := by
  decide

theorem declared_eq_names (r : StringRule) : r.declared = declarable.names r := by
  simp only [declared, declarable, Declarable.names, List.flatMap_cons, List.flatMap_nil,
    List.append_nil, List.append_assoc]

/-- Whether alternatives may stand together. -/
structure Compatible (rules : List StringRule) : Prop where
  once : ∀ entry ∈ declarable, rules.countP entry.2 ≤ 1
  const : ∀ a ∈ rules, a.const ≠ none →
    ∀ entry ∈ declarable, entry.1 ≠ "const" → ∀ b ∈ rules, entry.2 b = false
  len : ∀ a ∈ rules, a.len ≠ none → ∀ b ∈ rules, b.minLen = none ∧ b.maxLen = none
  lenBytes : ∀ a ∈ rules, a.lenBytes ≠ none → ∀ b ∈ rules, b.minBytes = none ∧ b.maxBytes = none
  allowed : ∀ a ∈ rules, a.allowed ≠ [] → ∀ b ∈ rules, b.denied = [] ∧ b.pattern = none
  pattern : ∀ a ∈ rules, a.pattern ≠ none → ∀ b ∈ rules, b.format = none

theorem mem_names_iff (r : StringRule) :
    ("const" ∈ declarable.names r ↔ r.const ≠ none) ∧
    ("len" ∈ declarable.names r ↔ r.len ≠ none) ∧
    ("min_len" ∈ declarable.names r ↔ r.minLen ≠ none) ∧
    ("max_len" ∈ declarable.names r ↔ r.maxLen ≠ none) ∧
    ("len_bytes" ∈ declarable.names r ↔ r.lenBytes ≠ none) ∧
    ("min_bytes" ∈ declarable.names r ↔ r.minBytes ≠ none) ∧
    ("max_bytes" ∈ declarable.names r ↔ r.maxBytes ≠ none) ∧
    ("pattern" ∈ declarable.names r ↔ r.pattern ≠ none) ∧
    ("in" ∈ declarable.names r ↔ r.allowed ≠ []) ∧
    ("not_in" ∈ declarable.names r ↔ r.denied ≠ []) ∧
    ("well_known" ∈ declarable.names r ↔ r.format ≠ none) := by
  simp [Declarable.mem_names_iff, declarable, Option.isSome_iff_ne_none]

theorem admits_iff_compatible {rules : List StringRule} :
    stringExclusions.Admits (rules.flatMap declared) ↔ Compatible rules := by
  have names : declared = declarable.names := funext declared_eq_names
  rw [names, Declarable.admits_iff declarable_distinct (by decide)]
  simp only [stringExclusions, List.forall_mem_cons, List.not_mem_nil, false_implies, implies_true,
    and_true, mem_names_iff, not_not]
  constructor
  · rintro ⟨once, const, minLen, maxLen, minBytes, maxBytes, denied, pattern, format⟩
    exact {
      once, const
      len := fun a member set b other =>
        ⟨minLen a member set b other, maxLen a member set b other⟩
      lenBytes := fun a member set b other =>
        ⟨minBytes a member set b other, maxBytes a member set b other⟩
      allowed := fun a member set b other =>
        ⟨denied a member set b other, pattern a member set b other⟩
      pattern := format }
  · rintro ⟨once, const, len, lenBytes, allowed, pattern⟩
    exact ⟨once, const,
      fun a member set b other => (len a member set b other).1,
      fun a member set b other => (len a member set b other).2,
      fun a member set b other => (lenBytes a member set b other).1,
      fun a member set b other => (lenBytes a member set b other).2,
      fun a member set b other => (allowed a member set b other).1,
      fun a member set b other => (allowed a member set b other).2, pattern⟩

/-- What the values of an alternative must be by themselves. -/
structure Coherent (r : StringRule) : Prop where
  fits : r.Fits r
  pattern : ∀ p ∈ r.effectivePattern?, Pattern.isValid p = true ∧ r.allowed = []

variable {rules : List StringRule} {r : StringRule}

theorem checkPattern_effectivePattern_eq_ok_iff :
    checkPattern r.effectivePattern? r.allowed.length = .ok () ↔
      ∀ p ∈ r.effectivePattern?, Pattern.isValid p = true ∧ r.allowed = [] := by
  cases r.effectivePattern? with
  | none => simp [checkPattern]
  | some p =>
      simp only [checkPattern_some_eq_ok_iff, List.length_eq_zero_iff, Option.mem_some_iff,
        forall_eq', and_comm]

/-- A pattern is never written out beside a name for one where the declarations are compatible. -/
theorem Compatible.checkKnownPattern (compatible : Compatible rules) (member : r ∈ rules) :
    r.checkKnownPattern = .ok () := by
  unfold StringRule.checkKnownPattern
  cases known : r.knownPattern? with
  | none => rfl
  | some p =>
      have unwritten : r.pattern = none := by
        by_contra written
        simp [knownPattern?, compatible.pattern r member written r member] at known
      simp [unwritten]

theorem Compatible.checkSets (compatible : Compatible rules) (member : r ∈ rules) :
    checkSets r.allowed.length r.denied.length = .ok () := by
  by_cases allowed : r.allowed = []
  · simp [ProtoRules.checkSets, allowed]
  · simp [ProtoRules.checkSets, (compatible.allowed r member allowed r member).1]

theorem Compatible.checkValues_eq_ok_iff (compatible : Compatible rules) (member : r ∈ rules) :
    r.checkValues = .ok () ↔ r.Coherent := by
  rw [StringRule.checkValues_eq_ok_iff, checkPattern_effectivePattern_eq_ok_iff]
  constructor
  · rintro ⟨-, -, -, pattern, fits⟩
    exact ⟨fits, pattern⟩
  · rintro ⟨fits, pattern⟩
    exact ⟨fun set => compatible.len r member (Option.isSome_iff_ne_none.mp set) r member,
      fun set => compatible.lenBytes r member (Option.isSome_iff_ne_none.mp set) r member,
      compatible.checkSets member, pattern, fits⟩

end StringRule

/-- Rules on strings are accepted exactly if every alternative says how it is answered, the
alternatives may stand together, and the values of each fit each other. -/
theorem stringRules_accepted_iff {inject : Bool} {rules : List StringRule} :
    checkString inject rules = .ok () ↔
      (∀ r ∈ rules, (∃ e, r.error = some e ∧ Text.isBlankText e.method = false) ∨
        (r.error = none ∧ inject = true)) ∧
      StringRule.Compatible rules ∧ ∀ r ∈ rules, r.Coherent := by
  rw [checkString_eq_ok_iff, StringRule.admits_iff_compatible]
  simp only [checkError_eq_ok_iff]
  constructor
  · intro ⟨tested, compatible⟩
    exact ⟨fun r member => (tested r member).1, compatible, fun r member =>
      (compatible.checkValues_eq_ok_iff member).mp (tested r member).2.2⟩
  · intro ⟨answered, compatible, coherent⟩
    exact ⟨fun r member => ⟨answered r member, compatible.checkKnownPattern member,
      (compatible.checkValues_eq_ok_iff member).mpr (coherent r member)⟩, compatible⟩

end ProtoRules
