import ProtoRules.Proofs.Alternatives
import ProtoRules.Proofs.Positions

/-!
Values of an enum that are listed where only those that the enum defines are valid. They are looked
up for an alternative that says both; if one alternative lists the values and another one says that
only defined ones are valid, the enum is never looked at.
-/

namespace ProtoRules

/-- Whether an enum is declared and has values of all the given numbers. -/
def Schema.Defines (schema : Schema) (enumName : String) (numbers : List (Word .int32)) : Prop :=
  ∃ e, schema.enumeration enumName = .ok e ∧ numbers ⊆ e.values.map EnumValue.number

theorem Enum.isDefined_iff {e : Enum} {number : Word .int32} :
    e.isDefined number = true ↔ number ∈ e.values.map EnumValue.number := by
  simp [isDefined]

/-- The enum of a single value, as its rules look it up. -/
def Shape.enumName (shape : Shape) : String :=
  (shape.single?.bind ElementType.enumName?).getD ""

namespace EnumRule

variable {schema : Schema} {enumName : String} {inject : Bool} {r : EnumRule}
  {rules : List EnumRule}

/-- Whether an alternative lists values and says that only defined ones are valid. -/
def ListsDefined (r : EnumRule) : Prop :=
  r.definedOnly = true ∧ r.allowed ≠ []

theorem checkDefined_eq_ok_iff : r.checkDefined schema enumName = .ok () ↔
    (r.ListsDefined → schema.Defines enumName r.allowed) := by
  have lists : (r.definedOnly && !r.allowed.isEmpty) = true ↔ r.ListsDefined := by
    simp [ListsDefined]
  by_cases both : r.ListsDefined
  · rw [checkDefined, if_pos (lists.mpr both)]
    simp only [bind_eq_ok_iff, SchemaError.lift_eq_ok_iff, both, forall_const]
    refine exists_congr fun e => and_congr_right fun _ => ?_
    cases undefined : r.allowed.find? (!e.isDefined ·) with
    | none =>
        have defined := List.find?_eq_none.mp undefined
        refine iff_of_true rfl fun number member => Enum.isDefined_iff.mp ?_
        simpa using defined number member
    | some number =>
        constructor
        · intro rejected
          cases rejected
        · intro defined
          have member := Enum.isDefined_iff.mpr (defined (List.mem_of_find?_eq_some undefined))
          simpa [member] using List.find?_some undefined
  · rw [checkDefined, if_neg (mt lists.mp both)]
    exact iff_of_true rfl fun said => absurd said both

private theorem checkEnum_eq_ok_iff_defines :
    checkEnum schema enumName inject rules = .ok () ↔
      ((∀ r ∈ rules, checkError r.error inject RuleKind.enum.keyword = .ok () ∧
        checkSets r.allowed.length r.denied.length = .ok ()) ∧
      Exclusions.Admits ⟨["const"], setExclusions⟩ (rules.flatMap EnumRule.declared)) ∧
      ∀ r ∈ rules, r.ListsDefined → schema.Defines enumName r.allowed := by
  simp only [checkEnum_eq_ok_iff, checkDefined_eq_ok_iff]
  constructor
  · rintro ⟨tested, admitted⟩
    exact ⟨⟨fun r member => ⟨(tested r member).1, (tested r member).2.1⟩, admitted⟩,
      fun r member => (tested r member).2.2⟩
  · rintro ⟨⟨tested, admitted⟩, defined⟩
    exact ⟨fun r member => ⟨(tested r member).1, (tested r member).2, defined r member⟩, admitted⟩

/-- Values are listed by one alternative only. -/
private theorem eq_of_listing (admitted : Exclusions.Admits ⟨["const"], setExclusions⟩
    (rules.flatMap EnumRule.declared)) {a b : EnumRule} (aMember : a ∈ rules) (bMember : b ∈ rules)
    (aLists : a.allowed ≠ []) (bLists : b.allowed ≠ []) : a = b := by
  have declares : ∀ r : EnumRule, r.allowed ≠ [] → "in" ∈ r.declared := by
    intro r lists
    simp [declared, lists]
  exact admitted.eq_of_mem aMember bMember (declares a aLists) (declares b bLists)

end EnumRule

theorem checkRules_enum_eq_ok_iff {schema : Schema} {shape : Shape} {inject : Bool}
    {rules : List EnumRule} :
    checkRules schema shape { typed := some (.value (.enum rules)) } inject = .ok () ↔
      (∃ element, shape = .single element) ∧ shape.mismatch? .enum = none ∧
        checkEnum schema shape.enumName inject rules = .ok () := by
  rw [checkRules_value_eq_ok_iff]
  constructor
  · rintro ⟨element, rfl, fits, passed⟩
    exact ⟨⟨element, rfl⟩, fits, passed⟩
  · rintro ⟨⟨element, rfl⟩, fits, passed⟩
    exact ⟨element, rfl, fits, passed⟩

/-- Whatever schema rules on an enum are accepted in, the values that they list are defined there,
exactly if the alternative that lists them is one that says so. -/
theorem listed_values_defined_iff {schema : Schema} {shape : Shape} {inject : Bool}
    {rules : List EnumRule}
    (accepted : checkRules schema shape { typed := some (.value (.enum rules)) } inject = .ok ())
    (listing : ∃ r ∈ rules, r.allowed ≠ []) :
    (∀ s : Schema, checkRules s shape { typed := some (.value (.enum rules)) } inject = .ok () →
      ∀ r ∈ rules, r.allowed ≠ [] → s.Defines shape.enumName r.allowed) ↔
        ∃ r ∈ rules, r.ListsDefined := by
  simp only [checkRules_enum_eq_ok_iff, EnumRule.checkEnum_eq_ok_iff_defines] at accepted ⊢
  obtain ⟨single, fits, tested, -⟩ := accepted
  constructor
  · intro defined
    by_contra separate
    obtain ⟨r, member, lists⟩ := listing
    -- a schema without any enum, which is not looked at
    have vacuous : ∀ a ∈ rules, a.ListsDefined →
        (Schema.ofFiles []).Defines shape.enumName a.allowed := by
      intro a aMember both
      exact absurd ⟨a, aMember, both⟩ separate
    obtain ⟨e, declared, -⟩ := defined _ ⟨single, fits, tested, vacuous⟩ r member lists
    cases declared
  · rintro ⟨a, aMember, both⟩ s ⟨-, -, -, defined⟩ r member lists
    obtain rfl := EnumRule.eq_of_listing tested.2 aMember member both.2 lists
    exact defined a aMember both

def status : Enum := ⟨"Status", [⟨"UNKNOWN", 0⟩]⟩

def statusSchema : Schema :=
  Schema.ofFiles [{ name := "status.proto", package := "acme", enums := [status] }]

def statusShape : Shape := .single (.enum "acme.Status")

def definedStatus : List EnumRule :=
  [{ definedOnly := true, allowed := [0], error := some { method := "unknown" } }]

theorem definedStatus_defined :
    checkRules statusSchema statusShape { typed := some (.value (.enum definedStatus)) } false =
        .ok () ∧
      (∃ r ∈ definedStatus, r.allowed ≠ []) ∧
      ∀ r ∈ definedStatus, r.allowed ≠ [] →
        statusSchema.Defines statusShape.enumName r.allowed := by
  have accepted : checkRules statusSchema statusShape
      { typed := some (.value (.enum definedStatus)) } false = .ok () := rfl
  have listing : ∃ r ∈ definedStatus, r.allowed ≠ [] :=
    ⟨_, List.mem_singleton_self _, List.cons_ne_nil _ _⟩
  have said : ∃ r ∈ definedStatus, r.ListsDefined :=
    ⟨_, List.mem_singleton_self _, rfl, List.cons_ne_nil _ _⟩
  exact ⟨accepted, listing,
    (listed_values_defined_iff accepted listing).mpr said statusSchema accepted⟩

/-- Values that are listed beside an alternative by which only defined ones are valid. -/
def splitStatus : List EnumRule :=
  [{ definedOnly := true, error := some { method := "unknown" } },
    { allowed := [⟨7, by decide, by decide⟩], error := some { method := "other" } }]

theorem splitStatus_accepted_undefined :
    checkRules statusSchema statusShape { typed := some (.value (.enum splitStatus)) } false =
        .ok () ∧
      (∃ r ∈ splitStatus, r.definedOnly = true) ∧
      ∃ r ∈ splitStatus, r.allowed ≠ [] ∧
        ¬ statusSchema.Defines statusShape.enumName r.allowed := by
  refine ⟨rfl, ⟨_, List.mem_cons_self, rfl⟩, _, List.mem_cons_of_mem _ (List.mem_singleton_self _),
    List.cons_ne_nil _ _, ?_⟩
  rintro ⟨e, found, defined⟩
  have declared : statusSchema.enumeration statusShape.enumName = .ok status := rfl
  obtain rfl := Except.ok.inj (declared.symm.trans found)
  exact absurd (defined List.mem_cons_self) (by decide)

end ProtoRules
