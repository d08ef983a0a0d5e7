import ProtoRules.Proofs.ContextChains

/-!
Rule sets that alternatives hold for the positions inside a collection. Of the alternatives that the
check lets pass at most one holds rules for items, keys or values. So the rules of such a position
and the error that they raise come from one and the same alternative.
-/

namespace ProtoRules

section Holder

variable {α β : Type} {i : Nat}

/-- If there is only one declaring alternative, it is also the last. -/
private theorem lastDeclaring?_eq_some_of_only {declared? : α → Option β} {rules : List α} {r : α}
    {x : β} (position : rules[i]? = some r) (declares : declared? r = some x)
    (only : ∀ j s, rules[j]? = some s → (declared? s).isSome = true → j = i) :
    lastDeclaring? declared? rules = some (i, x) := by
  cases found : lastDeclaring? declared? rules with
  | none =>
      have silent := Context.lastDeclaring?_eq_none_iff.mp found r (List.mem_of_getElem? position)
      cases silent.symm.trans declares
  | some last =>
      obtain ⟨j, y⟩ := last
      obtain ⟨s, other, declaresOther⟩ := Context.lastDeclaring?_eq_some found
      obtain rfl := only j s other (Option.isSome_of_eq_some declaresOther)
      cases position.symm.trans other
      cases declares.symm.trans declaresOther
      rfl

end Holder

private theorem RepeatedRule.items_mem_declared {ρ : Type} (r : RepeatedRule ρ) :
    "items" ∈ r.declared ↔ r.items.isSome = true := by
  simp [declared]

private theorem MapRule.keys_mem_declared {ρ : Type} (r : MapRule ρ) :
    "keys" ∈ r.declared ↔ r.keys.isSome = true := by
  simp [declared]

private theorem MapRule.values_mem_declared {ρ : Type} (r : MapRule ρ) :
    "values" ∈ r.declared ↔ r.values.isSome = true := by
  simp [declared]

/-- Alternative `i` holds a rule set for the position that a step leads to, and has an error. -/
inductive TypedRules.Holds (i : Nat) : TypedRules FieldRules →
    (Context.Step → Context.Derivation) → FieldRules → Option ErrorSpec → Prop
  | items {rules : List (RepeatedRule FieldRules)} {r : RepeatedRule FieldRules} {held : FieldRules}
      (position : rules[i]? = some r) (declared : r.items = some held) :
      Holds i (.repeated rules) .element held r.error
  | keys {rules : List (MapRule FieldRules)} {r : MapRule FieldRules} {held : FieldRules}
      (position : rules[i]? = some r) (declared : r.keys = some held) :
      Holds i (.map rules) .key held r.error
  | values {rules : List (MapRule FieldRules)} {r : MapRule FieldRules} {held : FieldRules}
      (position : rules[i]? = some r) (declared : r.values = some held) :
      Holds i (.map rules) .element held r.error

theorem TypedRules.Holds.enters {i : Nat} {t : TypedRules FieldRules}
    {enter : Context.Step → Context.Derivation} {held : FieldRules} {own : Option ErrorSpec}
    (holds : t.Holds i enter held own) (step : Context.Step) : (enter step).enters = true := by
  cases holds with
  | items _ _ => rfl
  | keys _ _ => rfl
  | values _ _ => rfl

namespace Context

variable {schema : Schema} {c d root : Context} {i : Nat} {held : FieldRules} {spec : ErrorSpec}

/-- The element type that a position has inside a collection. -/
def Derivation.element? (shape : Shape) : Derivation → Option ElementType
  | .key _ => shape.key?
  | .element _ => shape.element?
  | .unwrap _ => none

/-- A context projects a rule set, and whatever fails there raises one error. -/
structure StandsFor (c : Context) (held : FieldRules) (spec : ErrorSpec) : Prop where
  projects : resolve c.field.name c.shape held = .ok (c.rules, c.messageRules)
  raises : ∀ own, c.error own = some spec

/-- Contexts with the same rules and the same error to fall back on. -/
structure AgreesWith (c d : Context) : Prop where
  shape : c.shape = d.shape
  rules : c.rules = d.rules
  messageRules : c.messageRules = d.messageRules
  inherited : c.inherited = d.inherited

private theorem ChildOf.standsFor {step : Step} {element : ElementType}
    (child : root.ChildOf step element (some held) (some spec) c) : c.StandsFor held spec := by
  refine ⟨?_, fun own => ?_⟩
  · rw [child.field, child.shape]
    exact child.resolved
  · rw [error, if_neg (by rw [child.borrows]; exact Bool.false_ne_true), child.inherited]
    rfl

private theorem ChildOf.agreesWith {step other : Step} {element : ElementType}
    {declared : Option FieldRules} {lent : Option ErrorSpec}
    (first : root.ChildOf step element declared lent c)
    (second : root.ChildOf other element declared lent d) : c.AgreesWith d := by
  have same := Except.ok.inj (first.resolved.symm.trans second.resolved)
  obtain ⟨rules, messageRules⟩ := Prod.mk.inj same
  exact ⟨first.shape.trans second.shape.symm, rules, messageRules,
    first.inherited.trans second.inherited.symm⟩

private theorem Nested.declared_eq_some {α : Type} {p : Nested α} {t : Exclusions}
    {names : α → List String} {name : String} {r : α} (admitted : t.Admits (p.rules.flatMap names))
    (listed : ∀ r, name ∈ names r ↔ (p.held? r).isSome = true) (position : p.rules[i]? = some r)
    (declares : p.held? r = some held) : p.declared = some (i, held) := by
  refine lastDeclaring?_eq_some_of_only position declares fun j s other holds => ?_
  have first : name ∈ names r := (listed r).mpr (Option.isSome_of_eq_some declares)
  exact admitted.index_eq other position ((listed s).mpr holds) first

/-- The context that the index of the holding alternative leads to stands for the rule set and the
error of that alternative, and the one without an index does not differ from it. -/
private theorem Nested.Accepted.standsFor {α : Type} {p : Nested α} {r : α} {step other : Step}
    {enter : Step → Derivation} (accepted : p.Accepted schema root) (outermost : root.Outermost)
    (leads : ∀ step, root.derive (enter step) = p.context root step)
    (holder : p.declared = some (i, held)) (position : p.rules[i]? = some r)
    (indexed : step.errorIndex = some i) (plain : other.errorIndex = none) :
    ∃ spec c d, p.own r = some spec ∧ root.derive (enter step) = .ok c ∧
      root.derive (enter other) = .ok d ∧ c.StandsFor held spec ∧ c.AgreesWith d := by
  have raises := accepted.raises r (List.mem_of_getElem? position)
  rw [Raises, if_pos outermost.owns] at raises
  obtain ⟨spec, own⟩ := Option.isSome_iff_exists.mp raises
  have lent : alternativeError p.own p.rules (some i) = some spec := by
    simp [alternativeError, position, own]
  have bound : i < p.rules.length := (List.getElem?_eq_some_iff.mp position).1
  obtain ⟨c, toC, _⟩ := accepted.context_eq_ok (.of_some indexed bound)
  obtain ⟨d, toD, _⟩ := accepted.context_eq_ok (.of_none plain _)
  have reached {step : Step} {e : Context} (named : (step.errorIndex <|> some i) = some i)
      (led : p.context root step = .ok e) :
      root.ChildOf step p.element (some held) (some spec) e := by
    have child := childOf_of_child led
    rw [holder] at child
    rw [← lent, ← named]
    exact child
  have childC := reached (by rw [indexed]; rfl) toC
  have childD := reached (by rw [plain]; rfl) toD
  exact ⟨spec, c, d, own, (leads step).trans toC, (leads other).trans toD, childC.standsFor,
    childC.agreesWith childD⟩

private theorem element?_of_derive {step : Derivation} (enters : step.enters = true)
    (derived : root.derive step = .ok c) :
    ∃ position, step.element? root.shape = some position ∧ c.shape = .single position := by
  cases step with
  | key step =>
      simp only [derive, key] at derived
      split at derived
      · exact ⟨_, ‹_›, (childOf_of_child derived).shape⟩
      · cases derived
  | element step =>
      simp only [derive, element] at derived
      split at derived
      · exact ⟨_, ‹_›, (childOf_of_child derived).shape⟩
      · exact ⟨_, ‹_›, (childOf_of_child derived).shape⟩
      · cases derived
  | unwrap accessor => cases enters

theorem StandsFor.unwrap (stands : c.StandsFor held spec) (agrees : c.AgreesWith d) {v : ValueRules}
    (wrapper : c.rules = .wrapper v) (accessor : String) :
    ∃ c' d', c.unwrap accessor = .ok c' ∧ d.unwrap accessor = .ok d' ∧
      c'.shape = c.shape ∧ c'.rules = .typed (.value v) ∧
      resolve c'.field.name c'.shape held = .ok (.wrapper v, c'.messageRules) ∧
      (∀ own, c'.error own = some spec) ∧ c'.AgreesWith d' := by
  have other : d.rules = .wrapper v := agrees.rules.symm.trans wrapper
  refine ⟨{ c with rules := .typed (.value v), accessor := some accessor },
    { d with rules := .typed (.value v), accessor := some accessor }, ?_, ?_, rfl, rfl, ?_,
    stands.raises, agrees.shape, rfl, agrees.messageRules, agrees.inherited⟩
  · rw [Context.unwrap, wrapper]
  · rw [Context.unwrap, other]
  · rw [← wrapper]
    exact stands.projects

private theorem checked_of_ofField {message : Message} {field : Field} {rules : FieldRules}
    (accepted : checkField schema field = .ok ()) (declared : field.rules = .ok (some rules))
    (written : ofField message field = .ok root) :
    Checked schema root rules ∧ root.shape = field.shape := by
  simp only [checkField, declared, bind_eq_ok_iff, SchemaError.lift_eq_ok_iff, Except.ok.injEq,
    exists_eq_left'] at accepted
  simp only [ofField, declared, bind_eq_ok_iff, SchemaError.project_eq_ok_iff, Except.ok.injEq,
    exists_eq_left', pure_eq_ok_iff] at written
  obtain ⟨base, _, ⟨read, messageRules⟩, resolved, rfl⟩ := written
  exact ⟨⟨accepted, resolved, fun borrows => by cases borrows⟩, rfl⟩

/-- Rules for a collection are projected as they are. -/
theorem Checked.collection {rules : FieldRules} {t : TypedRules FieldRules}
    (checked : Checked schema root rules) (typed : rules.typed = some t)
    (collection : ∀ v, t ≠ .value v) : root.rules = .typed t := by
  rcases (resolve_eq_ok checked.resolved).2 with ⟨missing, _⟩ | ⟨other, same, own⟩ | ⟨v, value, _⟩
  · cases missing.symm.trans typed
  · cases same.symm.trans typed
    exact own
  · cases Option.some.inj (value.symm.trans typed)
    exact absurd rfl (collection v)

/-- A position that an alternative holds rules for stands for them, whichever collection it is in.
-/
private theorem Checked.standsFor_held {rules : FieldRules} {t : TypedRules FieldRules}
    {enter : Step → Derivation} {own : Option ErrorSpec} (checked : Checked schema root rules)
    (outermost : root.Outermost) (typed : rules.typed = some t) (holds : t.Holds i enter held own)
    {step other : Step} (indexed : step.errorIndex = some i) (plain : other.errorIndex = none) :
    ∃ spec c d, own = some spec ∧ root.derive (enter step) = .ok c ∧
      root.derive (enter other) = .ok d ∧ c.StandsFor held spec ∧ c.AgreesWith d := by
  cases holds with
  | items position declares =>
      have projected := checked.collection typed fun _ same => by cases same
      obtain ⟨_, _, passed⟩ := checked.checkRepeated_eq_ok projected
      obtain ⟨element, nested, leads⟩ := checked.items projected
      have admitted := (checkRepeated_eq_ok_iff.mp passed).2
      exact nested.standsFor outermost (congrFun leads)
        (Nested.declared_eq_some admitted RepeatedRule.items_mem_declared position declares)
        position indexed plain
  | keys position declares =>
      have projected := checked.collection typed fun _ same => by cases same
      obtain ⟨_, _, _, passed⟩ := checked.checkMap_eq_ok projected
      obtain ⟨element, nested, leads⟩ := checked.keys projected
      have admitted := (checkMap_eq_ok_iff.mp passed).2
      exact nested.standsFor outermost (congrFun leads)
        (Nested.declared_eq_some admitted MapRule.keys_mem_declared position declares)
        position indexed plain
  | values position declares =>
      have projected := checked.collection typed fun _ same => by cases same
      obtain ⟨_, _, _, passed⟩ := checked.checkMap_eq_ok projected
      obtain ⟨element, nested, leads⟩ := checked.values projected
      have admitted := (checkMap_eq_ok_iff.mp passed).2
      exact nested.standsFor outermost (congrFun leads)
        (Nested.declared_eq_some admitted MapRule.values_mem_declared position declares)
        position indexed plain

/-- Of an accepted field, the context of a position that alternative `i` holds rules for stands for
these rules and for the error of that alternative, whether the step names the alternative or not;
and the same holds of the value inside a wrapper. -/
theorem nested_context_stands_for_its_alternative {message : Message} {field : Field}
    {rules : FieldRules} {t : TypedRules FieldRules} {enter : Step → Derivation}
    {own : Option ErrorSpec} (accepted : checkField schema field = .ok ())
    (declared : field.rules = .ok (some rules)) (typed : rules.typed = some t)
    (holds : t.Holds i enter held own) (written : ofField message field = .ok root)
    {step other : Step} (indexed : step.errorIndex = some i) (plain : other.errorIndex = none) :
    ∃ spec position c d, own = some spec ∧ root.derive (enter step) = .ok c ∧
      root.derive (enter other) = .ok d ∧
      (enter step).element? field.shape = some position ∧ c.shape = .single position ∧
      c.StandsFor held spec ∧ c.AgreesWith d ∧
      ∀ v, c.rules = .wrapper v → ∀ accessor, ∃ c' d', c.unwrap accessor = .ok c' ∧
        d.unwrap accessor = .ok d' ∧ c'.shape = c.shape ∧ c'.rules = .typed (.value v) ∧
        resolve c'.field.name c'.shape held = .ok (.wrapper v, c'.messageRules) ∧
        (∀ own, c'.error own = some spec) ∧ c'.AgreesWith d' := by
  obtain ⟨checked, shape⟩ := checked_of_ofField accepted declared written
  have outermost := (outermost_of_ofField written).1
  obtain ⟨spec, c, d, own, toC, toD, stands, agrees⟩ :=
    checked.standsFor_held outermost typed holds indexed plain
  obtain ⟨position, element, single⟩ := element?_of_derive (holds.enters step) toC
  exact ⟨spec, position, c, d, own, toC, toD, shape ▸ element, single, stands, agrees,
    fun v wrapper => stands.unwrap agrees wrapper⟩

/-- What is declared on prices: the second alternative holds rules for the values. -/
def pricesRules : FieldRules where
  typed := some (.map [
    { minPairs := Word.ofInt? .uint64 1, error := some { method := "empty" } },
    { values := some { typed := some (.value (.numeric .int64
        [{ bounds := { gt := Word.ofInt? .int64 0 } }])) }
      error := some { method := "badPrice" } }])

theorem prices_value_stands_for_second_alternative :
    checkField (Schema.ofFiles []) prices = .ok () ∧ prices.rules = .ok (some pricesRules) ∧
    ∃ root c v, ofField shop prices = .ok root ∧
      root.element ⟨"value", "Value", some 1⟩ = .ok c ∧ c.rules = .wrapper v ∧
      ∃ inner, c.unwrap "inner" = .ok inner ∧ inner.tag = .kind (.numeric .int64) ∧
        ∀ own, inner.error own = some { method := "badPrice" } := by
  have accepted : checkField (Schema.ofFiles []) prices = .ok () := rfl
  have declared : prices.rules = .ok (some pricesRules) := rfl
  obtain ⟨root, written⟩ : ∃ root, ofField shop prices = .ok root := ⟨_, rfl⟩
  have indexed : (⟨"value", "Value", some 1⟩ : Step).errorIndex = some 1 := rfl
  have plain : (⟨"value", "Value", none⟩ : Step).errorIndex = none := rfl
  obtain ⟨spec, _, c, d, own, derived, _, _, _, _, _, wrapped⟩ :=
    nested_context_stands_for_its_alternative accepted declared rfl (.values rfl rfl) written
      indexed plain
  cases own
  obtain ⟨v, wrapper, kind⟩ : ∃ v, c.rules = .wrapper v ∧ v.kind = .numeric .int64 := by
    cases written
    cases derived
    exact ⟨_, rfl, rfl⟩
  obtain ⟨inner, _, unwrapped, _, _, typed, _, raises, _⟩ := wrapped v wrapper "inner"
  refine ⟨accepted, declared, root, c, v, written, derived, wrapper, inner, unwrapped, ?_, raises⟩
  rw [tag, typed]
  exact congrArg Tag.kind kind

end Context

end ProtoRules
