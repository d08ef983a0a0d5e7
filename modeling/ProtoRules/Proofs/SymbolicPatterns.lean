import ProtoRules.Proofs.LengthBounds

/-!
Patterns that go by a name and patterns that are written out. An alternative is tested in the same
way with either; but to the alternatives beside it a named one is a format and no pattern, so
that they may list allowed values, which they may not beside a pattern that is written out.
-/

namespace ProtoRules

namespace StringRule

/-- Whether the pattern of a rule is the one that a name stands for. -/
structure Symbolic (r : StringRule) (p : String) : Prop where
  unwritten : r.pattern = none
  named : r.knownPattern?.bind (·.resolve r.strict) = some p

/-- A rule with a pattern written out in place of its format. -/
def spelled (r : StringRule) (p : String) : StringRule :=
  { r with format := none, pattern := some p }

/-- What a rule declares besides its pattern and its format. -/
def others (r : StringRule) : List String :=
  { r with format := none, pattern := none : StringRule }.declared

theorem mem_in_declared_iff {r : StringRule} : "in" ∈ r.declared ↔ r.allowed ≠ [] := by
  simp [declared]

theorem mem_in_others_iff {r : StringRule} : "in" ∈ r.others ↔ r.allowed ≠ [] := by
  simp [others, declared]

namespace Symbolic

variable {r : StringRule} {p : String}

theorem effectivePattern? (symbolic : r.Symbolic p) : r.effectivePattern? = some p := by
  rw [StringRule.effectivePattern?, symbolic.unwritten, symbolic.named]
  rfl

private theorem format_isSome (symbolic : r.Symbolic p) : r.format.isSome = true := by
  have named := symbolic.named
  unfold knownPattern? at named
  cases set : r.format with
  | none => simp [set] at named
  | some format => rfl

theorem checkKnownPattern (symbolic : r.Symbolic p) : r.checkKnownPattern = .ok () := by
  unfold StringRule.checkKnownPattern
  rw [symbolic.unwritten]
  cases r.knownPattern? with
  | none => rfl
  | some known => simp

private theorem checkValues_spelled (symbolic : r.Symbolic p) :
    (r.spelled p).checkValues = r.checkValues := by
  have same : (r.spelled p).effectivePattern? = r.effectivePattern? := by
    rw [symbolic.effectivePattern?]
    rfl
  unfold checkValues
  rw [same]
  rfl

private theorem declared_perm (symbolic : r.Symbolic p) :
    r.declared.Perm ("well_known" :: r.others) := by
  refine List.perm_iff_count.mpr fun name => ?_
  simp only [others, declared, symbolic.unwritten, symbolic.format_isSome, List.count_append,
    List.count_cons, count_named]
  simp

end Symbolic

private theorem declared_spelled_perm (r : StringRule) (p : String) :
    (r.spelled p).declared.Perm ("pattern" :: r.others) := by
  refine List.perm_iff_count.mpr fun name => ?_
  simp only [others, declared, spelled, List.count_append, List.count_cons, count_named,
    Option.isSome_some, Option.isSome_none, Bool.false_eq_true, true_and, false_and, if_false,
    beq_iff_eq]
  omega

private theorem checkKnownPattern_spelled (r : StringRule) (p : String) :
    (r.spelled p).checkKnownPattern = .ok () :=
  rfl

end StringRule

/-- What may stand beside a pattern that is written out may stand beside a named one, and allowed
values may as well. -/
theorem allows_pattern_iff {name : String} : stringExclusions.Allows "pattern" name ↔
    stringExclusions.Allows "well_known" name ∧ name ≠ "in" := by
  have written : stringExclusions.excludes "pattern" name = false ↔
      name ≠ "const" ∧ name ≠ "well_known" ∧ name ≠ "in" := by
    simp [Exclusions.excludes, stringExclusions, and_assoc]
  have known : stringExclusions.excludes "well_known" name = false ↔
      name ≠ "const" ∧ name ≠ "pattern" := by
    simp [Exclusions.excludes, stringExclusions]
  rw [Exclusions.allows_iff, Exclusions.allows_iff, written, known]
  grind

theorem admits_pattern_iff {names : List String} : stringExclusions.Admits ("pattern" :: names) ↔
    stringExclusions.Admits ("well_known" :: names) ∧ "in" ∉ names := by
  simp only [Exclusions.Admits, List.pairwise_cons, allows_pattern_iff]
  grind

private theorem flatMap_declared_perm {before after : List StringRule} {r : StringRule}
    {name : String} {others : List String} (perm : r.declared.Perm (name :: others)) :
    ((before ++ r :: after).flatMap StringRule.declared).Perm
      (name :: (others ++ (before ++ after).flatMap StringRule.declared)) :=
  (List.perm_middle.flatMap_right StringRule.declared).trans (perm.append_right _)

theorem checkPattern_some_eq_ok_iff {p : String} {allowed : Nat} :
    checkPattern (some p) allowed = .ok () ↔ allowed = 0 ∧ Pattern.isValid p = true := by
  simp [checkPattern, bind_eq_ok_iff, exists_unit_iff, Verdict.require_eq_ok_iff]

namespace StringRule

private theorem Symbolic.allowed_eq_nil {r : StringRule} {p : String} (symbolic : r.Symbolic p)
    (tested : r.checkValues = .ok ()) : r.allowed = [] := by
  obtain ⟨_, _, _, passed, _⟩ := checkValues_eq_ok_iff.mp tested
  rw [symbolic.effectivePattern?] at passed
  exact List.length_eq_zero_iff.mp (checkPattern_some_eq_ok_iff.mp passed).1

end StringRule

/-- What an alternative is tested for by itself. -/
def StringRule.Tested (inject : Bool) (r : StringRule) : Prop :=
  checkError r.error inject RuleKind.string.keyword = .ok () ∧
    r.checkKnownPattern = .ok () ∧ r.checkValues = .ok ()

theorem StringRule.Symbolic.tested_spelled_iff {inject : Bool} {r : StringRule} {p : String}
    (symbolic : r.Symbolic p) : (r.spelled p).Tested inject ↔ r.Tested inject := by
  unfold StringRule.Tested
  rw [symbolic.checkKnownPattern, checkKnownPattern_spelled, symbolic.checkValues_spelled]
  rfl

/-- A pattern may be written out in place of its name exactly if no alternative beside it lists
allowed values. -/
theorem checkString_spelled_iff {inject : Bool} {before after : List StringRule} {r : StringRule}
    {p : String} (symbolic : r.Symbolic p) :
    checkString inject (before ++ r.spelled p :: after) = .ok () ↔
      checkString inject (before ++ r :: after) = .ok () ∧
        ∀ s ∈ before ++ after, s.allowed = [] := by
  have accepted_iff : ∀ {rules : List StringRule}, checkString inject rules = .ok () ↔
      (∀ s ∈ rules, s.Tested inject) ∧
        stringExclusions.Admits (rules.flatMap StringRule.declared) := checkString_eq_ok_iff
  have tested : (∀ s ∈ before ++ r.spelled p :: after, s.Tested inject) ↔
      ∀ s ∈ before ++ r :: after, s.Tested inject := by
    simp only [List.forall_mem_append, List.forall_mem_cons, symbolic.tested_spelled_iff]
  have own : (∀ s ∈ before ++ r :: after, s.Tested inject) → r.allowed = [] := fun tested =>
    symbolic.allowed_eq_nil (tested r (by simp)).2.2
  have beside : "in" ∉ r.others ++ (before ++ after).flatMap StringRule.declared ↔
      r.allowed = [] ∧ ∀ s ∈ before ++ after, s.allowed = [] := by
    simp only [List.mem_append, List.mem_flatMap, StringRule.mem_in_others_iff,
      StringRule.mem_in_declared_iff, not_or, not_exists, not_and, not_not]
  rw [accepted_iff, accepted_iff, tested,
    Exclusions.admits_perm (flatMap_declared_perm (r.declared_spelled_perm p)),
    Exclusions.admits_perm (flatMap_declared_perm symbolic.declared_perm), admits_pattern_iff,
    beside]
  constructor
  · rintro ⟨passed, admitted, _, apart⟩
    exact ⟨⟨passed, admitted⟩, apart⟩
  · rintro ⟨⟨passed, admitted⟩, apart⟩
    exact ⟨passed, admitted, own passed, apart⟩

def headerNames : StringRule :=
  { format := some (.pattern .headerName), error := some { method := "badName" } }

def shortNames : StringRule :=
  { maxBytes := some ⟨40, by decide, by decide⟩, error := some { method := "longName" } }

def listedNames : StringRule :=
  { allowed := ["accept", "host"], error := some { method := "unknownName" } }

private theorem headerNames_symbolic : headerNames.Symbolic KnownPattern.headerNameRegex :=
  ⟨rfl, rfl⟩

private theorem headerNames_tested : headerNames.Tested false := by
  have values : headerNames.checkValues = .ok () := by decide +kernel
  exact ⟨rfl, rfl, values⟩

theorem headerNames_spelled_beside_shortNames :
    headerNames.Symbolic KnownPattern.headerNameRegex ∧
      checkString false
        [headerNames.spelled KnownPattern.headerNameRegex, shortNames] = .ok () := by
  have shortTested : shortNames.Tested false := ⟨rfl, rfl, rfl⟩
  have accepted : checkString false ([] ++ headerNames :: [shortNames]) = .ok () :=
    checkString_eq_ok_iff.mpr ⟨List.forall_mem_cons.mpr
      ⟨headerNames_tested, List.forall_mem_singleton.mpr shortTested⟩, by decide⟩
  have unlisted : ∀ s ∈ ([] : List StringRule) ++ [shortNames], s.allowed = [] := by decide
  have spelled := (checkString_spelled_iff headerNames_symbolic).mpr ⟨accepted, unlisted⟩
  exact ⟨headerNames_symbolic, spelled⟩

theorem headerNames_not_spelled_beside_listedNames :
    headerNames.Symbolic KnownPattern.headerNameRegex ∧
      checkString false [headerNames, listedNames] = .ok () ∧
      checkString false [headerNames.spelled KnownPattern.headerNameRegex, listedNames] ≠
        .ok () := by
  have listedTested : listedNames.Tested false := ⟨rfl, rfl, rfl⟩
  refine ⟨headerNames_symbolic, ?_, ?_⟩
  · exact checkString_eq_ok_iff.mpr ⟨List.forall_mem_cons.mpr
      ⟨headerNames_tested, List.forall_mem_singleton.mpr listedTested⟩, by decide⟩
  · intro accepted
    exact absurd (checkString_eq_ok_iff.mp accepted).2 (by decide)

end ProtoRules
