import Mathlib.Algebra.GroupWithZero.Nat
import Mathlib.Data.List.Nodup
import ProtoRules.Proofs.Alternatives

/-!
Rules on ordered values over several alternatives. The alternatives are accepted exactly if no two
of them declare the same name and the one alternative that all of them merge into is accepted: each
of them is a part of it, so its names and its range are no narrower than theirs.
-/

namespace ProtoRules

variable {α : Type}

structure Comparison (α : Type) where
  required : Bool := false
  bounds : Bounds α
  allowed : Nat
  denied : Nat

namespace Comparison

def declared (c : Comparison α) : List String :=
  named "required" c.required ++ comparedNames c.allowed c.denied c.bounds

def mergeAll (cs : List (Comparison α)) : Comparison α where
  required := cs.any required
  bounds := Bounds.mergeAll (cs.map bounds)
  allowed := (cs.map allowed).sum
  denied := (cs.map denied).sum

theorem mem_declared_iff {c : Comparison α} {name : String} :
    name ∈ c.declared ↔ name = "required" ∧ c.required = true ∨
      (c.bounds.rule? name).isSome = true ∨
        name = "in" ∧ c.allowed ≠ 0 ∨ name = "not_in" ∧ c.denied ≠ 0 := by
  simp only [declared, comparedNames, List.mem_append, mem_named, Bounds.mem_declared_iff,
    bne_iff_ne, ne_eq, or_assoc]

theorem declared_nodup (c : Comparison α) : c.declared.Nodup := by
  have unset : ∀ name ∈ ["required", "in", "not_in"], name ∉ c.bounds.declared := by
    intro name member
    rw [Bounds.mem_declared_iff]
    rcases List.mem_cons.mp member with rfl | member
    · exact Bool.false_ne_true
    rcases List.mem_cons.mp member with rfl | member
    · exact Bool.false_ne_true
    · rw [List.mem_singleton.mp member]
      exact Bool.false_ne_true
  have bounds := c.bounds.declared_nodup
  have noRequired := unset "required" (by decide)
  have noIn := unset "in" (by decide)
  have noNotIn := unset "not_in" (by decide)
  simp only [declared, comparedNames, List.nodup_append, nodup_named, List.mem_append, mem_named]
  grind

theorem mem_declared_mergeAll_iff {cs : List (Comparison α)} {name : String} :
    name ∈ (mergeAll cs).declared ↔ ∃ c ∈ cs, name ∈ c.declared := by
  have rules : ((mergeAll cs).bounds.rule? name).isSome = true ↔
      ∃ c ∈ cs, (c.bounds.rule? name).isSome = true := by
    rw [mergeAll, Bounds.mergeAll_rule?, List.findSome?_map, List.findSome?_isSome_iff]
    exact Iff.rfl
  have sizes : ∀ size : Comparison α → Nat,
      (cs.map size).sum ≠ 0 ↔ ∃ c ∈ cs, size c ≠ 0 := by
    intro size
    rw [ne_eq, List.sum_eq_zero_iff_forall_eq_nat]
    simp
  have requires : (mergeAll cs).required = true ↔ ∃ c ∈ cs, c.required = true :=
    List.any_eq_true
  simp only [mem_declared_iff, rules, requires]
  simp only [mergeAll, sizes]
  grind

private theorem bounds_partOf {cs : List (Comparison α)} {c : Comparison α} (member : c ∈ cs)
    (disjoint : cs.Pairwise fun a b => a.declared.Disjoint b.declared) :
    c.bounds.PartOf (mergeAll cs).bounds := by
  have declares : ∀ {c : Comparison α} {name : String}, name ∈ c.bounds.declared →
      name ∈ c.declared := fun declared =>
    List.mem_append_right _ (List.mem_append_left _ (List.mem_append_left _ declared))
  refine Bounds.partOf_mergeAll (List.pairwise_map.mpr ?_) _ (List.mem_map_of_mem member)
  exact disjoint.imp fun apart name first second => apart (declares first) (declares second)

theorem admits_declared_iff {c : Comparison α} :
    comparisonExclusions.Admits c.declared ↔
      ¬ (c.required = true ∧ c.bounds.const.isSome = true) ∧
        comparisonExclusions.Admits (comparedNames c.allowed c.denied c.bounds) := by
  have table : ∀ required const lt lte gt gte allowed denied : Bool,
      comparisonExclusions.Admits (named "required" required ++ (named "const" const ++
        named "lt" lt ++ named "lte" lte ++ named "gt" gt ++ named "gte" gte ++
          named "in" allowed ++ named "not_in" denied)) ↔
        ¬ (required = true ∧ const = true) ∧
          contradicts const lt lte gt gte allowed denied = false := by
    decide +kernel
  rw [declared, comparedNames, Bounds.declared, table, admits_iff_not_contradicts]

/-- The names of all alternatives may meet if no two of them share one and those of the merged
alternative may meet. -/
theorem admits_flatMap_iff {cs : List (Comparison α)} :
    comparisonExclusions.Admits (cs.flatMap declared) ↔
      (cs.Pairwise fun a b => a.declared.Disjoint b.declared) ∧
        comparisonExclusions.Admits (mergeAll cs).declared := by
  have same : ∀ name, name ∈ cs.flatMap declared ↔ name ∈ (mergeAll cs).declared := by
    intro name
    rw [List.mem_flatMap, mem_declared_mergeAll_iff]
  have apart : (cs.flatMap declared).Nodup ↔
      cs.Pairwise fun a b => a.declared.Disjoint b.declared := by
    rw [List.nodup_flatMap, and_iff_right fun c _ => c.declared_nodup]
  have admits : (cs.flatMap declared).Nodup → (comparisonExclusions.Admits (cs.flatMap declared) ↔
      comparisonExclusions.Admits (mergeAll cs).declared) := by
    intro nodup
    simp only [Exclusions.admits_iff_of_nodup nodup,
      Exclusions.admits_iff_of_nodup (mergeAll cs).declared_nodup, same]
  rw [← apart]
  exact ⟨fun admitted => ⟨admitted.nodup, (admits admitted.nodup).mp admitted⟩,
    fun ⟨nodup, admitted⟩ => (admits nodup).mpr admitted⟩

theorem rangeFits_of_partOf [Numeral α] {b whole : Bounds α} {allowed denied : Nat}
    (part : b.PartOf whole)
    (admitted : comparisonExclusions.Admits (comparedNames allowed denied whole))
    (fits : whole.RangeFits) : b.RangeFits := by
  have single : ∀ strict wide : String, comparisonExclusions.excludes strict wide = true →
      strict ≠ wide → (whole.rule? strict).isSome = true → whole.rule? wide = none := by
    intro strict wide excludes ne strictSet
    by_contra wideSet
    have members : ∀ name, (whole.rule? name).isSome = true →
        name ∈ comparedNames allowed denied whole := by
      intro name set
      exact List.mem_append_left _ (List.mem_append_left _ (Bounds.mem_declared_iff.mpr set))
    have apart := (List.Pairwise.forall admitted (members strict strictSet)
      (members wide (Option.isSome_iff_ne_none.mpr wideSet)) ne).excludes_eq
    rw [excludes] at apart
    cases apart
  intro low up lower upper
  apply fits
  · exact part.lower? (single "gt" "gte" (by decide) (by decide)) lower
  · exact part.upper? (single "lt" "lte" (by decide) (by decide)) upper

/-- Alternatives pass one by one and together exactly if the merged one passes and no name is
declared twice. -/
private theorem accepted_iff_merged [Numeral α] {cs : List (Comparison α)} :
    ((∀ c ∈ cs, checkNums c.allowed c.denied c.bounds = .ok ()) ∧
      comparisonExclusions.Admits (cs.flatMap declared) ∧
        checkNums 0 0 (mergeAll cs).bounds = .ok ()) ↔
      (cs.Pairwise fun a b => a.declared.Disjoint b.declared) ∧
        ¬ ((mergeAll cs).required = true ∧ (mergeAll cs).bounds.const.isSome = true) ∧
          checkNums (mergeAll cs).allowed (mergeAll cs).denied (mergeAll cs).bounds = .ok () := by
  rw [checkNums_eq_ok_iff, checkNums_eq_ok_iff]
  constructor
  · rintro ⟨_, admitted, _, fits⟩
    obtain ⟨disjoint, merged⟩ := admits_flatMap_iff.mp admitted
    obtain ⟨required, compared⟩ := admits_declared_iff.mp merged
    exact ⟨disjoint, required, compared, fits⟩
  · rintro ⟨disjoint, required, compared, fits⟩
    have admitted := admits_flatMap_iff.mpr ⟨disjoint, admits_declared_iff.mpr ⟨required, compared⟩⟩
    refine ⟨fun c member => checkNums_eq_ok_iff.mpr ⟨?_, ?_⟩, admitted, ?_, fits⟩
    · have whole : c.declared.Sublist (cs.flatMap declared) := by
        rw [List.flatMap_def]
        exact List.sublist_flatten_of_mem (List.mem_map_of_mem member)
      exact admitted.sublist ((List.sublist_append_right _ _).trans whole)
    · exact rangeFits_of_partOf (bounds_partOf member disjoint) compared fits
    · have bounds : comparedNames 0 0 (mergeAll cs).bounds = (mergeAll cs).bounds.declared := by
        simp [comparedNames, named]
      rw [bounds]
      rw [comparedNames, List.append_assoc] at compared
      exact compared.sublist (List.sublist_append_left _ _)

private theorem views_accepted_iff_merged [Numeral α] {ρ : Type} (view : ρ → Comparison α)
    (rules : List ρ) :
    ((∀ r ∈ rules, checkNums (view r).allowed (view r).denied (view r).bounds = .ok ()) ∧
      comparisonExclusions.Admits (rules.flatMap fun r => (view r).declared) ∧
        checkNums 0 0 (Bounds.mergeAll (rules.map fun r => (view r).bounds)) = .ok ()) ↔
      (rules.Pairwise fun a b => (view a).declared.Disjoint (view b).declared) ∧
      ¬ ((∃ r ∈ rules, (view r).required = true) ∧
          ∃ r ∈ rules, (view r).bounds.const.isSome = true) ∧
        checkNums (rules.map fun r => (view r).allowed).sum
          (rules.map fun r => (view r).denied).sum
          (Bounds.mergeAll (rules.map fun r => (view r).bounds)) = .ok () := by
  have merged : _ ↔ _ := @accepted_iff_merged α _ (rules.map view)
  have required : (mergeAll (rules.map view)).required = true ↔
      ∃ r ∈ rules, (view r).required = true := by
    rw [mergeAll, List.any_map, List.any_eq_true]
    exact Iff.rfl
  have constant : (mergeAll (rules.map view)).bounds.const.isSome = true ↔
      ∃ r ∈ rules, (view r).bounds.const.isSome = true := by
    have first : (mergeAll (rules.map view)).bounds.const = _ := Bounds.mergeAll_rule? _ "const"
    rw [first, List.map_map, List.findSome?_map, List.findSome?_isSome_iff]
    exact Iff.rfl
  rw [required, constant] at merged
  simpa only [List.forall_mem_map, List.flatMap_map, List.pairwise_map, mergeAll, List.map_map,
    Function.comp_def] using merged

end Comparison

private theorem named_length_ne_zero {β : Type} (name : String) (xs : List β) :
    named name (xs.length != 0) = named name (!xs.isEmpty) := by
  cases xs <;> rfl

namespace NumericRule

def comparison (r : NumericRule α) : Comparison α where
  bounds := r.bounds
  allowed := r.allowed.length
  denied := r.denied.length

theorem comparison_declared (r : NumericRule α) : r.comparison.declared = r.declared := by
  rw [Comparison.declared, comparedNames, comparison, named_length_ne_zero, named_length_ne_zero]
  rfl

end NumericRule

namespace DurationRule

def comparison (r : DurationRule) : Comparison Int where
  required := r.required
  bounds := r.nanoseconds
  allowed := r.allowed.length
  denied := r.denied.length

theorem comparison_declared (r : DurationRule) : r.comparison.declared = r.declared := by
  rw [Comparison.declared, comparedNames, comparison, named_length_ne_zero, named_length_ne_zero,
    nanoseconds, Bounds.map_declared, declared, List.append_assoc, List.append_assoc,
    List.append_assoc]

private theorem comparison_const_isSome (r : DurationRule) :
    r.comparison.bounds.const.isSome = r.bounds.const.isSome :=
  Option.isSome_map

end DurationRule

private theorem checkNumeric_eq_ok_iff_merged [Numeral α] {kind : String} {inject : Bool}
    {rules : List (NumericRule α)} :
    checkNumeric kind inject rules = .ok () ↔
      (∀ r ∈ rules, checkError r.error inject kind = .ok ()) ∧
      (rules.Pairwise fun a b => a.declared.Disjoint b.declared) ∧
        checkNums (rules.map fun r => r.allowed.length).sum
          (rules.map fun r => r.denied.length).sum
          (Bounds.mergeAll (rules.map NumericRule.bounds)) = .ok () := by
  have merged := Comparison.views_accepted_iff_merged NumericRule.comparison rules
  simp only [NumericRule.comparison_declared] at merged
  rw [checkNumeric_eq_ok_iff]
  constructor
  · rintro ⟨tested, admitted, together⟩
    obtain ⟨disjoint, _, nums⟩ :=
      merged.mp ⟨fun r member => (tested r member).2, admitted, together⟩
    exact ⟨fun r member => (tested r member).1, disjoint, nums⟩
  · rintro ⟨answered, disjoint, nums⟩
    have optional : ∀ r ∈ rules, r.comparison.required = false := fun _ _ => rfl
    obtain ⟨tested, admitted, together⟩ :=
      merged.mpr ⟨disjoint, by simp +contextual [optional], nums⟩
    exact ⟨fun r member => ⟨answered r member, tested r member⟩, admitted, together⟩

private theorem checkDuration_eq_ok_iff_merged {inject : Bool} {rules : List DurationRule}
    (valid : ∀ r ∈ rules, ∀ d ∈ r.literals, d.Valid) :
    checkDuration inject rules = .ok () ↔
      (∀ r ∈ rules, checkError r.error inject RuleKind.duration.keyword = .ok ()) ∧
      (rules.Pairwise fun a b => a.declared.Disjoint b.declared) ∧
      ¬ ((∃ r ∈ rules, r.required = true) ∧ ∃ r ∈ rules, r.bounds.const.isSome = true) ∧
        checkNums (rules.map fun r => r.allowed.length).sum
          (rules.map fun r => r.denied.length).sum
          (Bounds.mergeAll (rules.map DurationRule.nanoseconds)) = .ok () := by
  have merged := Comparison.views_accepted_iff_merged DurationRule.comparison rules
  simp only [DurationRule.comparison_declared, DurationRule.comparison_const_isSome] at merged
  rw [checkDuration_eq_ok_iff]
  constructor
  · rintro ⟨tested, admitted, together⟩
    obtain ⟨disjoint, required, nums⟩ :=
      merged.mp ⟨fun r member => (tested r member).2.2, admitted, together⟩
    exact ⟨fun r member => (tested r member).1, disjoint, required, nums⟩
  · rintro ⟨answered, disjoint, required, nums⟩
    obtain ⟨tested, admitted, together⟩ := merged.mpr ⟨disjoint, required, nums⟩
    exact ⟨fun r member => ⟨answered r member, valid r member, tested r member⟩, admitted, together⟩

private theorem checkRules_duration_eq {schema : Schema} {shape : Shape}
    (isDuration : shape.wellKnown? = some .duration) (rules : List DurationRule) (inject : Bool) :
    checkRules schema shape { typed := some (.value (.duration rules)) } inject =
      checkDuration inject rules := by
  cases shape with
  | single element =>
      have fits : (Shape.single element).wellKnownMismatch? .duration = none := by
        rw [Shape.wellKnownMismatch?, if_pos isDuration]
      simp only [checkRules, checkElement, checkPosition, TypedRules.kind, ValueRules.kind,
        Shape.mismatch?, fits]
      rfl
  | repeated element => cases isDuration
  | map key value => cases isDuration

/-- Splitting rules over alternatives makes no difference: whatever the kind of numbers, a list of
alternatives is accepted exactly if each of them has its error, no name is declared by two of them
and the one alternative that they merge into is accepted. The same holds of durations in
nanoseconds, where a required value must not be a constant as well. -/
theorem accepted_iff_merged_alternative_accepted (inject : Bool) :
    (∀ (k : NumericKind) (rules : List (NumericRule (Number k.format))),
      checkNumeric k.keyword inject rules = .ok () ↔
        (∀ r ∈ rules, checkError r.error inject k.keyword = .ok ()) ∧
        (rules.Pairwise fun a b => a.declared.Disjoint b.declared) ∧
          checkNums (rules.map fun r => r.allowed.length).sum
            (rules.map fun r => r.denied.length).sum
            (Bounds.mergeAll (rules.map NumericRule.bounds)) = .ok ()) ∧
    ∀ (schema : Schema) (shape : Shape) (rules : List DurationRule),
      shape.wellKnown? = some .duration → (∀ r ∈ rules, ∀ d ∈ r.literals, d.Valid) →
        (checkRules schema shape { typed := some (.value (.duration rules)) } inject = .ok () ↔
          (∀ r ∈ rules, checkError r.error inject RuleKind.duration.keyword = .ok ()) ∧
          (rules.Pairwise fun a b => a.declared.Disjoint b.declared) ∧
          ¬ ((∃ r ∈ rules, r.required = true) ∧ ∃ r ∈ rules, r.bounds.const.isSome = true) ∧
            checkNums (rules.map fun r => r.allowed.length).sum
              (rules.map fun r => r.denied.length).sum
              (Bounds.mergeAll (rules.map DurationRule.nanoseconds)) = .ok ()) := by
  constructor
  · intro k rules
    exact checkNumeric_eq_ok_iff_merged
  · intro schema shape rules isDuration valid
    rw [checkRules_duration_eq isDuration]
    exact checkDuration_eq_ok_iff_merged valid

/-- A required duration of less than ten seconds, but more than none, by two alternatives. -/
def splitWindow : List DurationRule :=
  [{ required := true, bounds := { gt := some {} }, error := some { method := "low" } },
    { bounds := { lt := some { seconds := ⟨10, by decide, by decide⟩ } }
      error := some { method := "high" } }]

theorem splitWindow_accepted :
    (Shape.single (.message ".google.protobuf.Duration")).wellKnown? = some .duration ∧
      (∀ r ∈ splitWindow, ∀ d ∈ r.literals, d.Valid) ∧
      checkRules (Schema.ofFiles []) (.single (.message ".google.protobuf.Duration"))
        { typed := some (.value (.duration splitWindow)) } false = .ok () := by
  have isDuration :
      (Shape.single (.message ".google.protobuf.Duration")).wellKnown? = some .duration := by
    decide
  have valid : ∀ r ∈ splitWindow, ∀ d ∈ r.literals, d.Valid := by
    simp only [splitWindow, List.forall_mem_cons]
    refine ⟨?_, ?_, by simp⟩
    · intro d literal
      rw [List.mem_singleton.mp literal]
      exact ⟨0, rfl⟩
    · intro d literal
      rw [List.mem_singleton.mp literal]
      exact ⟨10000000000, rfl⟩
  have merged := (accepted_iff_merged_alternative_accepted false).2 (Schema.ofFiles []) _ _
    isDuration valid
  refine ⟨isDuration, valid, merged.mpr ⟨?_, ?_, ?_, ?_⟩⟩
  · simp only [splitWindow, List.forall_mem_cons]
    exact ⟨rfl, rfl, by simp⟩
  · refine List.pairwise_pair.mpr ?_
    have apart : ∀ name ∈ ["required", "gt"], name ∉ ["lt"] := by decide
    exact apart
  · decide
  · rfl

end ProtoRules
