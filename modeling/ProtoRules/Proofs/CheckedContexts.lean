import ProtoRules.Proofs.Alternatives
import ProtoRules.Proofs.Positions

/-!
Contexts of accepted rules. The context of a field whose rules pass the check knows an error for
each of them, and so do the contexts of its keys and its elements: an alternative that holds rules
for them lends them its own error.
-/

namespace ProtoRules

variable {schema : Schema} {inject : Bool}

namespace ValueRules

def errors : ValueRules → List (Option ErrorSpec)
  | .any rules => rules.map AnyRule.error
  | .bool rules => [rules.error]
  | .bytes rules => rules.map BytesRule.error
  | .duration rules => rules.map DurationRule.error
  | .enum rules => rules.map EnumRule.error
  | .numeric _ rules => rules.map NumericRule.error
  | .string rules => rules.map StringRule.error
  | .timestamp rules => rules.map TimestampRule.error

def LiteralsValid : ValueRules → Prop
  | .duration rules => ∀ r ∈ rules, ∀ d ∈ r.literals, d.Valid
  | .timestamp rules => ∀ r ∈ rules, (∀ t ∈ r.bounds.values, t.Valid) ∧ ∀ d ∈ r.within, d.Valid
  | _ => True

end ValueRules

private theorem alternatives_of_checkValueRules {element : ElementType} {v : ValueRules}
    (accepted : checkValueRules schema element inject v = .ok ()) :
    (∀ own ∈ v.errors, checkError own inject v.kind.keyword = .ok ()) ∧ v.LiteralsValid := by
  cases v with
  | any rules =>
      have tested := (checkAny_eq_ok_iff.mp accepted).1
      exact ⟨List.forall_mem_map.mpr fun r member => (tested r member).1, trivial⟩
  | bool rules => exact ⟨List.forall_mem_singleton.mpr accepted, trivial⟩
  | bytes rules =>
      have tested := (checkBytes_eq_ok_iff.mp accepted).1
      exact ⟨List.forall_mem_map.mpr fun r member => (tested r member).1, trivial⟩
  | duration rules =>
      have tested := (checkDuration_eq_ok_iff.mp accepted).1
      exact ⟨List.forall_mem_map.mpr fun r member => (tested r member).1,
        fun r member => (tested r member).2.1⟩
  | enum rules =>
      have tested := (checkEnum_eq_ok_iff.mp accepted).1
      exact ⟨List.forall_mem_map.mpr fun r member => (tested r member).1, trivial⟩
  | numeric k rules =>
      have tested := (checkNumeric_eq_ok_iff.mp accepted).1
      exact ⟨List.forall_mem_map.mpr fun r member => (tested r member).1, trivial⟩
  | string rules =>
      have tested := (checkString_eq_ok_iff.mp accepted).1
      exact ⟨List.forall_mem_map.mpr fun r member => (tested r member).1, trivial⟩
  | timestamp rules =>
      have tested := (checkTimestamp_eq_ok_iff.mp accepted).1
      refine ⟨List.forall_mem_map.mpr fun r member => (tested r member).1, fun r member => ?_⟩
      obtain ⟨_, bounds, within, _⟩ := tested r member
      exact ⟨bounds, fun d declared => (within d declared).1⟩

private theorem isSome_of_checkError {own : Option ErrorSpec} {kind : String}
    (accepted : checkError own false kind = .ok ()) : own.isSome = true := by
  obtain ⟨e, declared, -⟩ | ⟨-, injected⟩ := checkError_eq_ok_iff.mp accepted
  · exact Option.isSome_of_eq_some declared
  · cases injected

namespace Context

/-- Whether there is an error for failing rules to raise, `own` being the one they declare. -/
def Raises (c : Context) (own : Option ErrorSpec) : Prop :=
  if c.ownsErrors then own.isSome = true else c.inherited.isSome = true

theorem Raises.error_eq_some {c : Context} {own : Option ErrorSpec} (raises : c.Raises own) :
    ∃ spec, c.error own = some spec := by
  unfold Raises at raises
  cases owns : c.ownsErrors with
  | true =>
      rw [owns, if_pos rfl] at raises
      obtain ⟨spec, declared⟩ := Option.isSome_iff_exists.mp raises
      exact ⟨spec, by simp [error, owns, declared]⟩
  | false =>
      rw [owns, if_neg Bool.false_ne_true] at raises
      obtain ⟨spec, inherited⟩ := Option.isSome_iff_exists.mp raises
      exact ⟨spec, by simp [error, owns, inherited]⟩

structure Accepts (c : Context) (v : ValueRules) : Prop where
  raises : ∀ own ∈ v.errors, c.Raises own
  literals : v.LiteralsValid

def AcceptsMissing (c : Context) (rules : Option MessageRules) : Prop :=
  ∀ m ∈ rules, m.required = true → c.Raises m.error

/-- A context that stands for a rule set which its position accepts. -/
structure Checked (schema : Schema) (c : Context) (declared : FieldRules) : Prop where
  accepted : checkRules schema c.shape declared (!c.ownsErrors) = .ok ()
  resolved : resolve c.field.name c.shape declared = .ok (c.rules, c.messageRules)
  answered : c.ownsErrors = false → declared ≠ {} → c.inherited.isSome = true

theorem rules_cases (c : Context) : (∀ t, c.rules = .typed t → ∃ v, t = .value v) ∨
    (∃ rules, c.rules = .typed (.repeated rules)) ∨ ∃ rules, c.rules = .typed (.map rules) := by
  cases c.rules with
  | typed t =>
      cases t with
      | value v =>
          refine .inl fun t same => ⟨v, ?_⟩
          cases same
          rfl
      | repeated rules => exact .inr (.inl ⟨rules, rfl⟩)
      | map rules => exact .inr (.inr ⟨rules, rfl⟩)
  | _ => exact .inl fun t same => by cases same

namespace Checked

variable {c : Context} {declared : FieldRules}

private theorem messageRules_eq (checked : Checked schema c declared) :
    c.messageRules = declared.message :=
  (resolve_eq_ok checked.resolved).1

theorem raises (checked : Checked schema c declared) (nonempty : declared ≠ {})
    {own : Option ErrorSpec} {kind : String}
    (tested : checkError own (!c.ownsErrors) kind = .ok ()) : c.Raises own := by
  unfold Raises
  cases owns : c.ownsErrors with
  | true =>
      rw [owns] at tested
      exact isSome_of_checkError tested
  | false => exact checked.answered owns nonempty

theorem acceptsMissing (checked : Checked schema c declared) :
    c.AcceptsMissing c.messageRules := by
  intro m written required
  rw [checked.messageRules_eq, Option.mem_def] at written
  refine checked.raises ?_ (checkError_of_checkMessageRules
    (message_of_checkRules checked.accepted written) required)
  rintro rfl
  cases written

private theorem typed_eq_some (checked : Checked schema c declared) {v : ValueRules}
    (written : c.rules = .typed (.value v) ∨ c.rules = .wrapper v) :
    declared.typed = some (.value v) := by
  obtain ⟨_, ⟨_, default⟩ | ⟨t, typed, own⟩ | ⟨inside, typed, own⟩⟩ :=
    resolve_eq_ok checked.resolved
  · have made := defaultRules_cases c.shape declared.message
    rw [← default] at made
    grind
  · grind
  · grind

theorem accepts (checked : Checked schema c declared) {v : ValueRules}
    (written : c.rules = .typed (.value v) ∨ c.rules = .wrapper v) : c.Accepts v := by
  have typed := checked.typed_eq_some written
  obtain ⟨_, element, _, accepted⟩ := (typed_of_checkRules checked.accepted typed).imp_right
    TypedAccepted.single
  obtain ⟨errors, literals⟩ := alternatives_of_checkValueRules accepted
  refine ⟨fun own member => checked.raises ?_ (errors own member), literals⟩
  rintro rfl
  cases typed

theorem message_eq (checked : Checked schema c declared) {rules : Option MessageRules}
    (written : c.rules = .message rules) : rules = c.messageRules := by
  obtain ⟨message, ⟨_, default⟩ | ⟨t, typed, own⟩ | ⟨inside, typed, own⟩⟩ :=
    resolve_eq_ok checked.resolved
  · have made := defaultRules_cases c.shape declared.message
    rw [← default] at made
    grind
  · grind
  · grind

private theorem repeated_cases (checked : Checked schema c declared)
    {rules : List (RepeatedRule FieldRules)} (written : c.rules = .typed (.repeated rules)) :
    declared.typed = some (.repeated rules) ∨
      ∃ element, c.shape = .repeated element ∧ rules = [] := by
  obtain ⟨_, ⟨_, default⟩ | ⟨t, typed, own⟩ | ⟨inside, typed, own⟩⟩ :=
    resolve_eq_ok checked.resolved
  · have made := defaultRules_cases c.shape declared.message
    rw [← default] at made
    grind
  · cases written.symm.trans own
    exact .inl typed
  · cases written.symm.trans own

theorem checkRepeated_eq_ok (checked : Checked schema c declared)
    {rules : List (RepeatedRule FieldRules)} (written : c.rules = .typed (.repeated rules)) :
    ∃ element, c.shape = .repeated element ∧
      checkRepeated schema element (!c.ownsErrors) rules = .ok () := by
  rcases checked.repeated_cases written with typed | ⟨element, shape, rfl⟩
  · exact (typed_of_checkRules checked.accepted typed).2.list
  · exact ⟨element, shape, rfl⟩

theorem repeated_raises (checked : Checked schema c declared)
    {rules : List (RepeatedRule FieldRules)} (written : c.rules = .typed (.repeated rules)) :
    ∀ r ∈ rules, c.Raises r.error := by
  obtain ⟨element, _, accepted⟩ := checked.checkRepeated_eq_ok written
  intro r member
  refine checked.raises ?_ ((checkRepeated_eq_ok_iff.mp accepted).1 r member).1
  rintro rfl
  rcases checked.repeated_cases written with typed | ⟨_, _, rfl⟩
  · cases typed
  · cases member

private theorem map_cases (checked : Checked schema c declared)
    {rules : List (MapRule FieldRules)} (written : c.rules = .typed (.map rules)) :
    declared.typed = some (.map rules) ∨
      ∃ key value, c.shape = .map key value ∧ rules = [] := by
  obtain ⟨_, ⟨_, default⟩ | ⟨t, typed, own⟩ | ⟨inside, typed, own⟩⟩ :=
    resolve_eq_ok checked.resolved
  · have made := defaultRules_cases c.shape declared.message
    rw [← default] at made
    grind
  · cases written.symm.trans own
    exact .inl typed
  · cases written.symm.trans own

theorem checkMap_eq_ok (checked : Checked schema c declared)
    {rules : List (MapRule FieldRules)} (written : c.rules = .typed (.map rules)) :
    ∃ key value, c.shape = .map key value ∧
      checkMap schema key value (!c.ownsErrors) rules = .ok () := by
  rcases checked.map_cases written with typed | ⟨key, value, shape, rfl⟩
  · exact (typed_of_checkRules checked.accepted typed).2.dictionary
  · exact ⟨key, value, shape, rfl⟩

theorem map_raises (checked : Checked schema c declared)
    {rules : List (MapRule FieldRules)} (written : c.rules = .typed (.map rules)) :
    ∀ r ∈ rules, c.Raises r.error := by
  obtain ⟨key, value, _, accepted⟩ := checked.checkMap_eq_ok written
  intro r member
  refine checked.raises ?_ ((checkMap_eq_ok_iff.mp accepted).1 r member).1
  rintro rfl
  rcases checked.map_cases written with typed | ⟨_, _, _, rfl⟩
  · cases typed
  · cases member

theorem value_of_single (checked : Checked schema c declared) {element : ElementType}
    (shape : c.shape = .single element) :
    ∀ t, c.rules = .typed t → ∃ v, t = .value v := by
  intro t written
  cases t with
  | value v => exact ⟨v, rfl⟩
  | repeated rules =>
      obtain ⟨_, list, _⟩ := checked.checkRepeated_eq_ok written
      cases shape.symm.trans list
  | map rules =>
      obtain ⟨_, _, map, _⟩ := checked.checkMap_eq_ok written
      cases shape.symm.trans map

end Checked

theorem lastDeclaring?_eq_some {α β : Type} {declared? : α → Option β} {rules : List α} {i : Nat}
    {x : β} (found : lastDeclaring? declared? rules = some (i, x)) :
    ∃ r, rules[i]? = some r ∧ declared? r = some x := by
  have member := List.mem_of_getLast? found
  obtain ⟨⟨r, k⟩, position, declares⟩ := List.mem_filterMap.mp member
  obtain ⟨y, declared, same⟩ := Option.map_eq_some_iff.mp declares
  cases same
  exact ⟨r, List.mk_mem_zipIdx_iff_getElem?.mp position, declared⟩

theorem lastDeclaring?_eq_none_iff {α β : Type} {declared? : α → Option β} {rules : List α} :
    lastDeclaring? declared? rules = none ↔ ∀ r ∈ rules, declared? r = none := by
  rw [lastDeclaring?, List.getLast?_eq_none_iff, List.filterMap_eq_nil_iff]
  constructor
  · intro silent r member
    obtain ⟨i, position⟩ := List.mem_iff_getElem?.mp member
    exact Option.map_eq_none_iff.mp (silent (r, i) (List.mk_mem_zipIdx_iff_getElem?.mpr position))
  · rintro silent ⟨r, i⟩ member
    exact Option.map_eq_none_iff.mpr (silent r (List.fst_mem_of_mem_zipIdx member))

theorem checkNested_eq_ok_iff {segment : String} {element : ElementType}
    {rules : Option FieldRules} :
    checkNested schema segment element rules = .ok () ↔
      ∀ inner ∈ rules, checkElement schema element inner true = .ok () := by
  cases rules <;> simp [checkNested]

def Step.Within (step : Step) (count : Nat) : Prop :=
  ∀ i ∈ step.errorIndex, i < count

theorem Step.Within.of_none {step : Step} (unnamed : step.errorIndex = none) (count : Nat) :
    step.Within count := by
  intro i named
  rw [unnamed] at named
  cases named

theorem Step.Within.of_some {step : Step} {i count : Nat} (named : step.errorIndex = some i)
    (inside : i < count) : step.Within count := by
  intro k other
  cases named.symm.trans other
  exact inside

private theorem child_eq_ok {c : Context} {step : Step} {element : ElementType}
    {declared : Option FieldRules} {inherited : Option ErrorSpec}
    (accepted : ∀ inner ∈ declared, checkElement schema element inner true = .ok ())
    (answered : declared.isSome = true → (inherited <|> c.inherited).isSome = true) :
    ∃ e, c.child step element declared inherited = .ok e ∧
      Checked schema e (declared.getD {}) ∧ e.shape = .single element := by
  have passed : checkRules schema (.single element) (declared.getD {}) true = .ok () := by
    cases declared with
    | none => rfl
    | some inner => exact accepted inner rfl
  have resolves : ∃ resolved, resolve c.field.name _ _ = .ok resolved := resolve_isOk passed
  obtain ⟨⟨rules, messageRules⟩, resolved⟩ := resolves
  refine ⟨_, by rw [child, resolved]; rfl, ⟨passed, resolved, ?_⟩, rfl⟩
  intro _ nonempty
  cases declared with
  | none => exact absurd rfl nonempty
  | some inner => exact answered rfl

structure ChildOf (c : Context) (step : Step) (element : ElementType)
    (declared : Option FieldRules) (lent : Option ErrorSpec) (e : Context) : Prop where
  field : e.field = c.field
  errorBase : e.errorBase = c.errorBase
  shape : e.shape = .single element
  borrows : e.ownsErrors = false
  errorIndex : e.errorIndex = step.errorIndex
  inherited : e.inherited = (lent <|> c.inherited)
  suffix : e.suffix = step.suffix
  resolved : resolve c.field.name (.single element) (declared.getD {}) =
    .ok (e.rules, e.messageRules)

theorem childOf_of_child {c e : Context} {step : Step} {element : ElementType}
    {declared : Option FieldRules} {lent : Option ErrorSpec}
    (reached : c.child step element declared lent = .ok e) :
    c.ChildOf step element declared lent e := by
  simp only [child, bind_eq_ok_iff, pure_eq_ok_iff] at reached
  obtain ⟨⟨rules, messageRules⟩, resolved, rfl⟩ := reached
  exact ⟨rfl, rfl, rfl, rfl, rfl, rfl, rfl, resolved⟩

theorem ChildOf.undeclared {c e : Context} {step : Step} {element : ElementType}
    {lent : Option ErrorSpec} (child : c.ChildOf step element none lent e) :
    (e.rules = .message none ∨ e.rules = .none) ∧ e.messageRules = none := by
  have resolved : ((Shape.single element).defaultRules none, none) = (e.rules, e.messageRules) :=
    Except.ok.inj child.resolved
  obtain ⟨rules, message⟩ := Prod.mk.inj resolved
  rw [← rules, ← message]
  rcases defaultRules_cases (.single element) none with ⟨_, list, _⟩ | ⟨_, _, map, _⟩ | ⟨_, _, made⟩
  · cases list
  · cases map
  · exact ⟨made, rfl⟩

/-- Positions of one sort inside a collection, whose alternatives may hold rule sets for them. -/
structure Nested (α : Type) where
  element : ElementType
  held? : α → Option FieldRules
  own : α → Option ErrorSpec
  rules : List α

namespace Nested

variable {α : Type}

def declared (p : Nested α) : Option (Nat × FieldRules) :=
  lastDeclaring? p.held? p.rules

def context (p : Nested α) (c : Context) (step : Step) : Except ProjectionError Context :=
  c.child step p.element (p.declared.map (·.2))
    (alternativeError p.own p.rules (step.errorIndex <|> p.declared.map (·.1)))

structure Accepted (schema : Schema) (c : Context) (p : Nested α) : Prop where
  tests : ∀ r ∈ p.rules, ∀ inner ∈ p.held? r, checkElement schema p.element inner true = .ok ()
  raises : ∀ r ∈ p.rules, c.Raises (p.own r)

/-- The context of a nested position: its rules have the error of the alternative that holds them.
-/
theorem Accepted.context_eq_ok {c : Context} {p : Nested α} (accepted : p.Accepted schema c)
    {step : Step} (within : step.Within p.rules.length) :
    ∃ e, p.context c step = .ok e ∧ Checked schema e ((p.declared.map (·.2)).getD {}) ∧
      e.shape = .single p.element := by
  apply child_eq_ok
  · intro inner declared
    obtain ⟨⟨i, _⟩, found, rfl⟩ := Option.map_eq_some_iff.mp declared
    obtain ⟨r, position, holds⟩ := lastDeclaring?_eq_some found
    exact accepted.tests r (List.mem_of_getElem? position) _ holds
  · intro declared
    obtain ⟨⟨i, inner⟩, found⟩ := Option.isSome_iff_exists.mp (by simpa using declared)
    obtain ⟨r, position, _⟩ := lastDeclaring?_eq_some found
    have lent : ∃ k r, (step.errorIndex <|> some i) = some k ∧ p.rules[k]? = some r := by
      cases named : step.errorIndex with
      | none => exact ⟨i, r, rfl, position⟩
      | some k => exact ⟨k, p.rules.get ⟨k, within k named⟩, rfl, List.getElem?_eq_getElem _⟩
    obtain ⟨k, lender, index, atIndex⟩ := lent
    have answered := accepted.raises lender (List.mem_of_getElem? atIndex)
    rw [found, Option.map_some, index, alternativeError]
    unfold Raises at answered
    split at answered
    · simp [atIndex, answered]
    · simp [answered]

end Nested

namespace Checked

variable {c : Context} {declared : FieldRules}

theorem items (checked : Checked schema c declared)
    {rules : List (RepeatedRule FieldRules)} (written : c.rules = .typed (.repeated rules)) :
    ∃ element, Nested.Accepted schema c ⟨element, RepeatedRule.items, RepeatedRule.error, rules⟩ ∧
      c.element = Nested.context ⟨element, RepeatedRule.items, RepeatedRule.error, rules⟩ c := by
  obtain ⟨element, shape, accepted⟩ := checked.checkRepeated_eq_ok written
  have tested := (checkRepeated_eq_ok_iff.mp accepted).1
  refine ⟨element, ⟨fun r member => ?_, checked.repeated_raises written⟩, ?_⟩
  · exact checkNested_eq_ok_iff.mp (tested r member).2.2.2
  · funext step
    simp only [Context.element, written, shape, Shape.element?]
    rfl

theorem values (checked : Checked schema c declared)
    {rules : List (MapRule FieldRules)} (written : c.rules = .typed (.map rules)) :
    ∃ element, Nested.Accepted schema c ⟨element, MapRule.values, MapRule.error, rules⟩ ∧
      c.element = Nested.context ⟨element, MapRule.values, MapRule.error, rules⟩ c := by
  obtain ⟨key, value, shape, accepted⟩ := checked.checkMap_eq_ok written
  have tested := (checkMap_eq_ok_iff.mp accepted).1
  refine ⟨value, ⟨fun r member => ?_, checked.map_raises written⟩, ?_⟩
  · exact checkNested_eq_ok_iff.mp (tested r member).2.2.2.2
  · funext step
    simp only [Context.element, written, shape, Shape.element?]
    rfl

theorem keys (checked : Checked schema c declared)
    {rules : List (MapRule FieldRules)} (written : c.rules = .typed (.map rules)) :
    ∃ element, Nested.Accepted schema c ⟨element, MapRule.keys, MapRule.error, rules⟩ ∧
      c.key = Nested.context ⟨element, MapRule.keys, MapRule.error, rules⟩ c := by
  obtain ⟨key, value, shape, accepted⟩ := checked.checkMap_eq_ok written
  have tested := (checkMap_eq_ok_iff.mp accepted).1
  refine ⟨key, ⟨fun r member => ?_, checked.map_raises written⟩, ?_⟩
  · exact checkNested_eq_ok_iff.mp (tested r member).2.2.2.1
  · funext step
    simp only [Context.key, written, shape, Shape.key?]
    rfl

end Checked

structure Outermost (c : Context) : Prop where
  owns : c.ownsErrors = true
  plain : c.suffix = ""
  borrowsNone : c.inherited = none

theorem outermost_of_ofField {message : Message} {field : Field} {c : Context}
    (written : ofField message field = .ok c) :
    c.Outermost ∧ message.errorBase = .ok c.errorBase := by
  simp only [ofField, bind_eq_ok_iff, SchemaError.project_eq_ok_iff, pure_eq_ok_iff] at written
  obtain ⟨base, readable, declared, _, ⟨rules, messageRules⟩, _, rfl⟩ := written
  exact ⟨⟨rfl, rfl, rfl⟩, readable⟩

theorem Outermost.error_eq {c : Context} (outermost : c.Outermost) (own : Option ErrorSpec) :
    c.error own = own := by
  rw [error, if_pos outermost.owns, outermost.borrowsNone]
  cases own <;> rfl

theorem ofField_eq_ok {message : Message} {field : Field} {base : Option ErrorBase}
    (readable : message.errorBase = .ok base) (accepted : checkField schema field = .ok ()) :
    ∃ c declared, ofField message field = .ok c ∧ Checked schema c declared := by
  simp only [checkField, bind_eq_ok_iff, SchemaError.lift_eq_ok_iff] at accepted
  obtain ⟨rules, read, passed⟩ := accepted
  have tested : checkRules schema field.shape (rules.getD {}) false = .ok () := by
    cases rules with
    | none => cases field.shape <;> rfl
    | some rules => exact passed
  have resolves : ∃ resolved, resolve field.name _ _ = .ok resolved := resolve_isOk tested
  obtain ⟨⟨rules', messageRules⟩, resolved⟩ := resolves
  have written : ofField message field = .ok
      { field, messageRules, rules := rules', errorBase := base, shape := field.shape,
        ownsErrors := true, errorIndex := none, inherited := none, suffix := "",
        accessor := none } := by
    simp only [ofField, bind_eq_ok_iff, SchemaError.project_eq_ok_iff]
    exact ⟨base, readable, rules, read, (rules', messageRules), resolved, rfl⟩
  refine ⟨_, _, written, ⟨tested, resolved, ?_⟩⟩
  intro borrows
  cases borrows

end Context

theorem Message.mem_fields_of_mem_plainFields {message : Message} {field : Field}
    (member : field ∈ message.plainFields) : field ∈ message.fields :=
  (List.mem_filter.mp member).1

theorem Message.mem_fields_of_mem_oneofFields {message : Message} {oneof : String} {field : Field}
    (member : field ∈ message.oneofFields oneof) : field ∈ message.fields :=
  (List.mem_filter.mp member).1

structure Message.Accepted (schema : Schema) (message : Message) : Prop where
  readable : ∃ base, message.errorBase = .ok base
  fields : ∀ field ∈ message.fields, checkField schema field = .ok ()
  oneofs : ∀ oneof ∈ message.oneofs, checkOneof oneof = .ok ()

theorem checkDeclarations_eq_ok_iff {message : Message} :
    checkDeclarations schema message = .ok () ↔
      ∃ disabled, message.isDisabled = .ok disabled ∧
        (disabled = false → message.Accepted schema) := by
  simp only [checkDeclarations, bind_eq_ok_iff, SchemaError.lift_eq_ok_iff]
  refine exists_congr fun disabled => and_congr_right fun _ => ?_
  cases disabled with
  | true => exact iff_of_true rfl (fun enabled => by cases enabled)
  | false =>
      rw [if_neg Bool.false_ne_true, imp_iff_right rfl]
      simp only [bind_eq_ok_iff, exists_unit_iff, discard_eq_ok_iff, SchemaError.lift_eq_ok_iff,
        forM_eq_ok_iff, Verdict.within_eq_ok_iff]
      constructor
      · rintro ⟨readable, fields, oneofs⟩
        exact ⟨readable, fields, oneofs⟩
      · rintro ⟨readable, fields, oneofs⟩
        exact ⟨readable, fields, oneofs⟩

theorem checkMessage_eq_ok_iff {file : File} {message : Message} :
    checkMessage schema file message = .ok () ↔ checkDeclarations schema message = .ok () :=
  Verdict.within_eq_ok_iff

theorem checkFile_eq_ok_iff {file : File} :
    checkFile schema file = .ok () ↔
      ∀ message ∈ file.messages, checkDeclarations schema message = .ok () := by
  simp only [checkFile, forM_eq_ok_iff, Verdict.within_eq_ok_iff, checkMessage_eq_ok_iff]

theorem accepted_of_checkFile {file : File} (accepted : checkFile schema file = .ok ())
    {message : Message} (member : message ∈ file.messages) :
    ∃ disabled, message.isDisabled = .ok disabled ∧
      (disabled = false → message.Accepted schema) :=
  checkDeclarations_eq_ok_iff.mp (checkFile_eq_ok_iff.mp accepted message member)

theorem rules_of_checkOneof {oneof : Oneof} (accepted : checkOneof oneof = .ok ()) :
    ∃ rules, oneof.rules = .ok rules ∧
      ∀ r ∈ rules, r.required = true → r.error.isSome = true := by
  simp only [checkOneof, bind_eq_ok_iff, SchemaError.lift_eq_ok_iff] at accepted
  obtain ⟨rules, read, accepted⟩ := accepted
  refine ⟨rules, read, ?_⟩
  rintro r rfl required
  cases own : r.error with
  | some spec => rfl
  | none => simp [own, required] at accepted

namespace Message.Accepted

variable {message : Message}

theorem ofField_eq_ok (accepted : message.Accepted schema) {field : Field}
    (member : field ∈ message.fields) :
    ∃ c declared, Context.ofField message field = .ok c ∧ c.Checked schema declared := by
  obtain ⟨base, readable⟩ := accepted.readable
  exact Context.ofField_eq_ok readable (accepted.fields field member)

theorem ofField_faultsWithin {P : RenderError → Prop} {α : Type} {next : Context → Rendered α}
    (accepted : message.Accepted schema) {field : Field} (member : field ∈ message.fields)
    (rest : ∀ c declared, c.Checked schema declared → FaultsWithin P (next c)) :
    FaultsWithin P (ProjectionError.render (Context.ofField message field) >>= next) := by
  obtain ⟨c, declared, written, checked⟩ := accepted.ofField_eq_ok member
  rw [written]
  exact rest c declared checked

end Message.Accepted

end ProtoRules
