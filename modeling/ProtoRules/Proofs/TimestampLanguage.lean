import ProtoRules.Proofs.Acceptance
import ProtoRules.Proofs.Declarable
import ProtoRules.Proofs.MergedBounds
import ProtoRules.Proofs.Nanoseconds
import ProtoRules.Proofs.Positions

/-!
The rules on timestamps that are accepted. Bounds are absolute or relative to the present, in all
alternatives together; absolute ones on both sides leave a choice between two points in time. The
tests of single alternatives add nothing to that, for what fits in all alternatives fits in each.
-/

namespace ProtoRules

variable {rules : List TimestampRule} {r : TimestampRule}

namespace TimestampRule

def declarable : Declarable TimestampRule :=
  [("required", (·.required)), ("const", (·.bounds.const.isSome)), ("lt", (·.bounds.lt.isSome)),
    ("lte", (·.bounds.lte.isSome)), ("gt", (·.bounds.gt.isSome)), ("gte", (·.bounds.gte.isSome)),
    ("lt_now", (·.ltNow)), ("gt_now", (·.gtNow)), ("within", (·.within.isSome))]

theorem declarable_distinct : (declarable.map Prod.fst).Nodup := by
  decide

theorem declared_eq_names (r : TimestampRule) : r.declared = declarable.names r := by
  simp only [declared, Bounds.declared, declarable, Declarable.names, List.flatMap_cons,
    List.flatMap_nil, List.append_nil, List.append_assoc]

/-- Whether a bound is relative to the present. -/
def IsRelative (r : TimestampRule) : Prop :=
  r.ltNow = true ∨ r.gtNow = true ∨ r.within ≠ none

/-- Whether alternatives may stand together. -/
structure Compatible (rules : List TimestampRule) : Prop where
  once : ∀ entry ∈ declarable, rules.countP entry.2 ≤ 1
  const : ∀ a ∈ rules, a.bounds.const ≠ none →
    ∀ entry ∈ declarable, entry.1 ≠ "const" → ∀ b ∈ rules, entry.2 b = false
  upper : ∀ a ∈ rules, a.bounds.lt ≠ none → ∀ b ∈ rules, b.bounds.lte = none
  lower : ∀ a ∈ rules, a.bounds.gt ≠ none → ∀ b ∈ rules, b.bounds.gte = none
  now : ∀ a ∈ rules, a.ltNow = true → ∀ b ∈ rules, b.gtNow = false
  relative : ∀ a ∈ rules, a.IsRelative → ∀ b ∈ rules, b.bounds.Unlimited

theorem mem_names_iff (r : TimestampRule) :
    ("const" ∈ declarable.names r ↔ r.bounds.const ≠ none) ∧
    ("lt" ∈ declarable.names r ↔ r.bounds.lt ≠ none) ∧
    ("lte" ∈ declarable.names r ↔ r.bounds.lte ≠ none) ∧
    ("gt" ∈ declarable.names r ↔ r.bounds.gt ≠ none) ∧
    ("gte" ∈ declarable.names r ↔ r.bounds.gte ≠ none) ∧
    ("lt_now" ∈ declarable.names r ↔ r.ltNow = true) ∧
    ("gt_now" ∈ declarable.names r ↔ r.gtNow = true) ∧
    ("within" ∈ declarable.names r ↔ r.within ≠ none) := by
  simp [Declarable.mem_names_iff, declarable, Option.isSome_iff_ne_none]

theorem admits_iff_compatible :
    timestampExclusions.Admits (rules.flatMap declared) ↔ Compatible rules := by
  have names : declared = declarable.names := funext declared_eq_names
  rw [names, Declarable.admits_iff declarable_distinct (by decide)]
  simp only [timestampExclusions, List.forall_mem_cons, List.not_mem_nil, false_implies,
    implies_true, and_true, mem_names_iff, not_not, Bool.not_eq_true]
  constructor
  · rintro ⟨once, const, upper, lower, now, ltLt, ltLte, ltGt, ltGte, gtLt, gtLte, gtGt, gtGte,
      withinLt, withinLte, withinGt, withinGte⟩
    refine ⟨once, const, upper, lower, now, ?_⟩
    rintro a member (before | after | near) b other
    · exact ⟨ltLt a member before b other, ltLte a member before b other,
        ltGt a member before b other, ltGte a member before b other⟩
    · exact ⟨gtLt a member after b other, gtLte a member after b other,
        gtGt a member after b other, gtGte a member after b other⟩
    · exact ⟨withinLt a member near b other, withinLte a member near b other,
        withinGt a member near b other, withinGte a member near b other⟩
  · rintro ⟨once, const, upper, lower, now, relative⟩
    have before : ∀ a ∈ rules, a.ltNow = true → ∀ b ∈ rules, b.bounds.Unlimited :=
      fun a member set => relative a member (.inl set)
    have after : ∀ a ∈ rules, a.gtNow = true → ∀ b ∈ rules, b.bounds.Unlimited :=
      fun a member set => relative a member (.inr (.inl set))
    have near : ∀ a ∈ rules, a.within ≠ none → ∀ b ∈ rules, b.bounds.Unlimited :=
      fun a member set => relative a member (.inr (.inr set))
    exact ⟨once, const, upper, lower, now,
      fun a member set b other => (before a member set b other).lt,
      fun a member set b other => (before a member set b other).lte,
      fun a member set b other => (before a member set b other).gt,
      fun a member set b other => (before a member set b other).gte,
      fun a member set b other => (after a member set b other).lt,
      fun a member set b other => (after a member set b other).lte,
      fun a member set b other => (after a member set b other).gt,
      fun a member set b other => (after a member set b other).gte,
      fun a member set b other => (near a member set b other).lt,
      fun a member set b other => (near a member set b other).lte,
      fun a member set b other => (near a member set b other).gt,
      fun a member set b other => (near a member set b other).gte⟩

/-- Whether absolute bounds on both sides, where there are such, leave a choice. -/
def LeaveChoice (rules : List TimestampRule) : Prop :=
  (∃ r ∈ rules, r.bounds.gt ≠ none ∨ r.bounds.gte ≠ none) →
    (∃ r ∈ rules, r.bounds.lt ≠ none ∨ r.bounds.lte ≠ none) →
      ∃ v w : Int, v ≠ w ∧ ∀ r ∈ rules, r.nanoseconds.Admits v ∧ r.nanoseconds.Admits w

def merged (rules : List TimestampRule) : Bounds Int :=
  Bounds.mergeAll (rules.map nanoseconds)

theorem merged_rule?_isSome_iff (name : String) :
    ((merged rules).rule? name).isSome = true ↔
      ∃ r ∈ rules, (r.bounds.rule? name).isSome = true := by
  rw [merged, Bounds.mergeAll_rule?_isSome_iff]
  simp only [List.mem_map, exists_exists_and_eq_and, ← Bounds.mem_declared_iff, nanoseconds,
    Bounds.map_declared]

theorem merged_rule?_or_isSome_iff (first second : String) :
    ((merged rules).rule? first).isSome = true ∨ ((merged rules).rule? second).isSome = true ↔
      ∃ r ∈ rules, r.bounds.rule? first ≠ none ∨ r.bounds.rule? second ≠ none := by
  simp only [merged_rule?_isSome_iff, ← Option.isSome_iff_ne_none, and_or_left, exists_or]

namespace Compatible

theorem disjoint (compatible : Compatible rules) :
    (rules.map nanoseconds).Pairwise fun a b => a.declared.Disjoint b.declared :=
  Bounds.disjoint_of_admits nanoseconds_declared_subset (admits_iff_compatible.mpr compatible)

theorem merged_admits_iff (compatible : Compatible rules) {n : Int} :
    (merged rules).Admits n ↔ ∀ r ∈ rules, r.nanoseconds.Admits n := by
  rw [merged, Bounds.mergeAll_admits_iff compatible.disjoint, List.forall_mem_map]

private theorem merged_single (compatible : Compatible rules) : (merged rules).Single := by
  constructor
  · rintro ⟨exclusive, inclusive⟩
    obtain ⟨a, member, set⟩ := (merged_rule?_isSome_iff "gt").mp exclusive
    obtain ⟨b, other, also⟩ := (merged_rule?_isSome_iff "gte").mp inclusive
    exact Option.isSome_iff_ne_none.mp also
      (compatible.lower a member (Option.isSome_iff_ne_none.mp set) b other)
  · rintro ⟨exclusive, inclusive⟩
    obtain ⟨a, member, set⟩ := (merged_rule?_isSome_iff "lt").mp exclusive
    obtain ⟨b, other, also⟩ := (merged_rule?_isSome_iff "lte").mp inclusive
    exact Option.isSome_iff_ne_none.mp also
      (compatible.upper a member (Option.isSome_iff_ne_none.mp set) b other)

private theorem merged_unlimited (compatible : Compatible rules)
    (constant : (merged rules).const.isSome = true) : (merged rules).Unlimited := by
  obtain ⟨a, member, set⟩ := (merged_rule?_isSome_iff "const").mp constant
  have alone := compatible.const a member (Option.isSome_iff_ne_none.mp set)
  have entries : ∀ name ∈ ["lt", "lte", "gt", "gte"], name ≠ "const" ∧
      (name, fun r : TimestampRule => (r.bounds.rule? name).isSome) ∈ declarable := by
    simp [declarable, Bounds.rule?]
  have unset : ∀ name ∈ ["lt", "lte", "gt", "gte"],
      ((merged rules).rule? name).isSome = false := by
    intro name bound
    obtain ⟨other, entry⟩ := entries name bound
    refine Bool.eq_false_iff.mpr fun declared => ?_
    obtain ⟨b, bMember, also⟩ := (merged_rule?_isSome_iff name).mp declared
    exact Bool.eq_false_iff.mp (alone _ entry other b bMember) also
  exact Bounds.unlimited_iff.mpr ⟨unset "lt" (by decide), unset "lte" (by decide),
    unset "gt" (by decide), unset "gte" (by decide)⟩

theorem checkNums_merged_eq_ok_iff (compatible : Compatible rules) :
    checkNums 0 0 (merged rules) = .ok () ↔ LeaveChoice rules := by
  have single := compatible.merged_single
  have named : comparisonExclusions.Admits (comparedNames 0 0 (merged rules)) :=
    Bounds.admits_comparedNames_iff.mpr
      ⟨fun constant => ⟨compatible.merged_unlimited constant, rfl, rfl⟩, by omega, by omega, single⟩
  have lower : (merged rules).gt.isSome = true ∨ (merged rules).gte.isSome = true ↔ _ :=
    merged_rule?_or_isSome_iff "gt" "gte"
  have upper : (merged rules).lt.isSome = true ∨ (merged rules).lte.isSome = true ↔ _ :=
    merged_rule?_or_isSome_iff "lt" "lte"
  rw [checkNums_eq_ok_iff, and_iff_right named, Bounds.rangeFits_int_iff single,
    Bounds.lower?_isSome_iff, Bounds.upper?_isSome_iff, lower, upper]
  simp only [compatible.merged_admits_iff, ← forall₂_and]
  rfl

theorem checkNums_eq_ok (compatible : Compatible rules) (choice : LeaveChoice rules)
    (member : r ∈ rules) : checkNums 0 0 r.nanoseconds = .ok () :=
  (Bounds.partOf_mergeAll compatible.disjoint _ (List.mem_map_of_mem member)).checkNums_eq_ok
    (compatible.checkNums_merged_eq_ok_iff.mpr choice)

end Compatible

end TimestampRule

theorem checkRules_timestamp_eq_ok_iff {schema : Schema} {shape : Shape} {inject : Bool} :
    checkRules schema shape { typed := some (.value (.timestamp rules)) } inject = .ok () ↔
      (∃ element, shape = .single element ∧ element.wellKnown? = some .timestamp) ∧
        checkTimestamp inject rules = .ok () := by
  have fits : ∀ element : ElementType,
      (Shape.single element).mismatch? (ValueRules.timestamp rules).kind = none ↔
        element.wellKnown? = some .timestamp := by
    intro element
    exact ite_eq_left_iff.trans (by simp [Shape.wellKnown?, Shape.single?])
  rw [checkRules_value_eq_ok_iff]
  constructor
  · rintro ⟨element, rfl, wellKnown, passed⟩
    exact ⟨⟨element, rfl, (fits element).mp wellKnown⟩, passed⟩
  · rintro ⟨⟨element, rfl, wellKnown⟩, passed⟩
    exact ⟨element, rfl, (fits element).mpr wellKnown, passed⟩

/-- Rules on timestamps are accepted exactly at a single timestamp, if every alternative says how it
is answered, the literals are in range, the alternatives may stand together and what they leave is
more than one point in time. -/
theorem timestampRules_accepted_iff {schema : Schema} {shape : Shape} {inject : Bool} :
    checkRules schema shape { typed := some (.value (.timestamp rules)) } inject = .ok () ↔
      (∃ element, shape = .single element ∧ element.wellKnown? = some .timestamp) ∧
      (∀ r ∈ rules, checkError r.error inject RuleKind.timestamp.keyword = .ok ()) ∧
      (∀ r ∈ rules, (∀ t ∈ r.bounds.values, t.InRange) ∧
        ∀ d ∈ r.within, d.InRange ∧ 0 < d.nanoseconds) ∧
      TimestampRule.Compatible rules ∧ TimestampRule.LeaveChoice rules := by
  rw [checkRules_timestamp_eq_ok_iff, checkTimestamp_eq_ok_iff, TimestampRule.admits_iff_compatible]
  simp only [TimestampLiteral.valid_iff_inRange, DurationLiteral.valid_iff_inRange]
  refine and_congr_right fun _ => ?_
  constructor
  · rintro ⟨tested, compatible, together⟩
    exact ⟨fun r member => (tested r member).1,
      fun r member => ⟨(tested r member).2.1, (tested r member).2.2.1⟩, compatible,
      compatible.checkNums_merged_eq_ok_iff.mp together⟩
  · rintro ⟨answered, literals, compatible, choice⟩
    exact ⟨fun r member => ⟨answered r member, (literals r member).1, (literals r member).2,
      compatible.checkNums_eq_ok choice member⟩, compatible,
      compatible.checkNums_merged_eq_ok_iff.mpr choice⟩

end ProtoRules
