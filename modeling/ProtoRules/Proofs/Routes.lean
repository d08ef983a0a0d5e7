import ProtoRules.Proofs.Positions
import ProtoRules.Proofs.ValueFaults

/-!
Routes of faults. The route to a fault of a file names the file, the first rejected message, then
its first rejected field or oneof, and last the nested rule set that is at fault, if there is one.
-/

namespace ProtoRules

section Nesting

variable {α : Type} {own : List String → α → Except CheckError (List String)}
  {inside : α → Verdict} {before after rules : List α} {r r' : α} {e : CheckError}

/-- An alternative is tested by itself before the rules inside it. -/
def nesting (own : List String → α → Except CheckError (List String)) (inside : α → Verdict)
    (seen : List String) (r : α) : Except CheckError (List String) := do
  let next ← own seen r
  inside r
  return next

theorem nesting_eq_ok_iff {seen next : List String} :
    nesting own inside seen r = .ok next ↔ own seen r = .ok next ∧ inside r = .ok () := by
  simp only [nesting, bind_eq_ok_iff, exists_unit_iff, pure_eq_ok_iff]
  constructor
  · rintro ⟨_, passed, accepted, rfl⟩
    exact ⟨passed, accepted⟩
  · rintro ⟨passed, accepted⟩
    exact ⟨next, passed, accepted, rfl⟩

theorem checkAlternatives_concat_eq_ok_iff :
    checkAlternatives (before ++ [r]) (nesting own inside) = .ok () ↔
      ∃ seen next, before.foldlM (nesting own inside) [] = .ok seen ∧ own seen r = .ok next ∧
        inside r = .ok () := by
  simp only [checkAlternatives, discard_eq_ok_iff, List.foldlM_append, List.foldlM_cons,
    List.foldlM_nil, bind_pure, bind_eq_ok_iff, nesting_eq_ok_iff]
  exact exists_comm

/-- The rules inside an alternative are at fault if all tests before theirs are passed. What comes
before is the same for an alternative with other rules inside. -/
private theorem checkAlternatives_error_of_inside (same : ∀ seen, own seen r' = own seen r)
    (reached : checkAlternatives (before ++ [r']) (nesting own inside) = .ok ())
    (failed : inside r = .error e) :
    checkAlternatives (before ++ r :: after) (nesting own inside) = .error e := by
  obtain ⟨seen, next, earlier, passed, _⟩ := checkAlternatives_concat_eq_ok_iff.mp reached
  rw [checkAlternatives, discard_eq_error_iff, foldlM_eq_error_iff]
  refine ⟨before, r, after, seen, rfl, earlier, ?_⟩
  rw [nesting, ← same, passed, ok_bind, failed]
  rfl

private theorem checkAlternatives_error_cases (unrouted : ∀ seen r, Unrouted (own seen r))
    (failed : checkAlternatives rules (nesting own inside) = .error e) :
    e.path = [] ∨ ∃ before r after, rules = before ++ r :: after ∧ inside r = .error e ∧
      ∀ r', (∀ seen, own seen r' = own seen r) → inside r' = .ok () →
        checkAlternatives (before ++ [r']) (nesting own inside) = .ok () := by
  rw [checkAlternatives, discard_eq_error_iff, foldlM_eq_error_iff] at failed
  obtain ⟨before, r, after, seen, split, earlier, failed⟩ := failed
  rw [nesting, bind_eq_error_iff] at failed
  rcases failed with alone | ⟨next, passed, rest⟩
  · exact .inl (unrouted seen r e alone)
  · refine .inr ⟨before, r, after, split, ?_, fun r' same accepted => ?_⟩
    · rcases bind_eq_error_iff.mp rest with failed | ⟨_, _, ended⟩
      · exact failed
      · cases ended
    · exact checkAlternatives_concat_eq_ok_iff.mpr
        ⟨seen, next, earlier, (same seen).trans passed, accepted⟩

end Nesting

/-- The same alternative with nested rules that say nothing. -/
def RepeatedRule.hollow (r : RepeatedRule FieldRules) : RepeatedRule FieldRules :=
  { r with items := r.items.map fun _ => {} }

def MapRule.hollowValues (r : MapRule FieldRules) : MapRule FieldRules :=
  { r with values := r.values.map fun _ => {} }

def MapRule.hollow (r : MapRule FieldRules) : MapRule FieldRules :=
  { r.hollowValues with keys := r.keys.map fun _ => {} }

section Collections

variable {schema : Schema} {element key value : ElementType} {e : CheckError}

def RepeatedRule.checkOwn (element : ElementType) (seen : List String)
    (r : RepeatedRule FieldRules) : Except CheckError (List String) := do
  checkError r.error false RuleKind.repeated.keyword
  let seen ← Conflict.lift (Exclusions.declareAll ⟨[], []⟩ seen r.declared)
  checkMinMax r.minItems r.maxItems "min_items" "max_items"
  if r.unique then
    Verdict.require (!element.isEmbedded) (.mismatch .uniqueMessages)
  return seen

def MapRule.checkOwn (value : ElementType) (seen : List String) (r : MapRule FieldRules) :
    Except CheckError (List String) := do
  checkError r.error false RuleKind.map.keyword
  let seen ← Conflict.lift (Exclusions.declareAll ⟨[], []⟩ seen r.declared)
  checkMinMax r.minPairs r.maxPairs "min_pairs" "max_pairs"
  if r.noSparse then
    Verdict.require value.isEmbedded (.mismatch .sparseScalars)
  return seen

private theorem RepeatedRule.checkOwn_unrouted (seen : List String) (r : RepeatedRule FieldRules) :
    Unrouted (r.checkOwn element seen) := by
  refine FaultsWithin.bind checkError_unrouted fun _ _ => ?_
  refine FaultsWithin.bind (Conflict.lift_unrouted _) fun seen _ => ?_
  refine FaultsWithin.bind checkMinMax_unrouted fun _ _ => ?_
  refine FaultsWithin.ite (fun _ => ?_) fun _ => FaultsWithin.pure seen
  exact FaultsWithin.bind Verdict.require_unrouted fun _ _ => FaultsWithin.pure seen

private theorem MapRule.checkOwn_unrouted (seen : List String) (r : MapRule FieldRules) :
    Unrouted (r.checkOwn value seen) := by
  refine FaultsWithin.bind checkError_unrouted fun _ _ => ?_
  refine FaultsWithin.bind (Conflict.lift_unrouted _) fun seen _ => ?_
  refine FaultsWithin.bind checkMinMax_unrouted fun _ _ => ?_
  refine FaultsWithin.ite (fun _ => ?_) fun _ => FaultsWithin.pure seen
  exact FaultsWithin.bind Verdict.require_unrouted fun _ _ => FaultsWithin.pure seen

private theorem RepeatedRule.declared_hollow (r : RepeatedRule FieldRules) :
    r.hollow.declared = r.declared := by
  simp only [declared, hollow, Option.isSome_map]

private theorem MapRule.declared_hollowValues (r : MapRule FieldRules) :
    r.hollowValues.declared = r.declared := by
  simp only [declared, hollowValues, Option.isSome_map]

private theorem MapRule.declared_hollow (r : MapRule FieldRules) :
    r.hollow.declared = r.declared := by
  simp only [declared, hollow, hollowValues, Option.isSome_map]

private theorem RepeatedRule.checkOwn_hollow (seen : List String) (r : RepeatedRule FieldRules) :
    r.hollow.checkOwn element seen = r.checkOwn element seen := by
  rw [checkOwn, declared_hollow]
  rfl

private theorem MapRule.checkOwn_hollowValues (seen : List String) (r : MapRule FieldRules) :
    r.hollowValues.checkOwn value seen = r.checkOwn value seen := by
  rw [checkOwn, declared_hollowValues]
  rfl

private theorem MapRule.checkOwn_hollow (seen : List String) (r : MapRule FieldRules) :
    r.hollow.checkOwn value seen = r.checkOwn value seen := by
  rw [checkOwn, declared_hollow]
  rfl

private theorem checkRepeated_eq_nesting {rules : List (RepeatedRule FieldRules)} :
    checkRepeated schema element false rules =
      checkAlternatives rules (nesting (fun seen r => r.checkOwn element seen) fun r =>
        checkNested schema "items" element r.items) := by
  refine congrArg (checkAlternatives rules) (funext fun seen => funext fun r => ?_)
  simp only [nesting, RepeatedRule.checkOwn, bind_assoc]
  refine bind_congr fun _ => bind_congr fun seen => bind_congr fun _ => ?_
  split
  · simp only [bind_assoc, pure_bind]
  · simp only [pure_bind]

private theorem checkMap_eq_nesting {rules : List (MapRule FieldRules)} :
    checkMap schema key value false rules =
      checkAlternatives rules (nesting (fun seen r => r.checkOwn value seen) fun r => do
        checkNested schema "keys" key r.keys
        checkNested schema "values" value r.values) := by
  refine congrArg (checkAlternatives rules) (funext fun seen => funext fun r => ?_)
  simp only [nesting, MapRule.checkOwn, bind_assoc]
  refine bind_congr fun _ => bind_congr fun seen => bind_congr fun _ => ?_
  split
  · simp only [bind_assoc, pure_bind]
  · simp only [pure_bind]

private theorem checkNested_hollow {segment : String} (rules : Option FieldRules) :
    checkNested schema segment element (rules.map fun _ => {}) = .ok () := by
  cases rules <;> rfl

private theorem checkNested_error {segment : String} {rules : Option FieldRules}
    (failed : checkNested schema segment element rules = .error e) :
    e.path = [segment] ∧ ∃ inner ∈ rules, ∃ e', checkElement schema element inner true = .error e' ∧
      e.fault = e'.fault := by
  cases rules with
  | none => cases failed
  | some inner =>
      obtain ⟨e', rejected, rfl⟩ := Verdict.within_eq_error_iff.mp failed
      have path : e'.path = [] := checkElement_unrouted e' rejected
      exact ⟨congrArg (segment :: ·) path, inner, rfl, e', rejected, rfl⟩

private theorem checkNested_eq_error {segment : String} {rules : Option FieldRules}
    {inner : FieldRules} {e' : CheckError} (held : rules = some inner)
    (rejected : checkElement schema element inner true = .error e') :
    checkNested schema segment element rules = .error ⟨[segment], e'.fault⟩ := by
  have path : e'.path = [] := checkElement_unrouted e' rejected
  subst held
  exact Verdict.within_eq_error_iff.mpr ⟨e', rejected, by rw [path]⟩

end Collections

/-- A rule set that is nested in the rules of a field is what they are rejected for: the rules are
accepted up to it, with nothing said inside the last alternative, and it is rejected itself. -/
inductive NestedRejection (schema : Schema) :
    Shape → FieldRules → String → CheckFault → Prop
  | items {element : ElementType} {rules inner : FieldRules} {r : RepeatedRule FieldRules}
      {before after : List (RepeatedRule FieldRules)} {e : CheckError}
      (declared : rules.typed = some (.repeated (before ++ r :: after)))
      (reached : checkRules schema (.repeated element)
        { rules with typed := some (.repeated (before ++ [r.hollow])) } false = .ok ())
      (held : r.items = some inner)
      (rejected : checkRules schema (.single element) inner true = .error e) :
      NestedRejection schema (.repeated element) rules "items" e.fault
  | keys {key value : ElementType} {rules inner : FieldRules} {r : MapRule FieldRules}
      {before after : List (MapRule FieldRules)} {e : CheckError}
      (declared : rules.typed = some (.map (before ++ r :: after)))
      (reached : checkRules schema (.map key value)
        { rules with typed := some (.map (before ++ [r.hollow])) } false = .ok ())
      (held : r.keys = some inner)
      (rejected : checkRules schema (.single key) inner true = .error e) :
      NestedRejection schema (.map key value) rules "keys" e.fault
  | values {key value : ElementType} {rules inner : FieldRules} {r : MapRule FieldRules}
      {before after : List (MapRule FieldRules)} {e : CheckError}
      (declared : rules.typed = some (.map (before ++ r :: after)))
      (reached : checkRules schema (.map key value)
        { rules with typed := some (.map (before ++ [r.hollowValues])) } false = .ok ())
      (held : r.values = some inner)
      (rejected : checkRules schema (.single value) inner true = .error e) :
      NestedRejection schema (.map key value) rules "values" e.fault

section Rules

variable {schema : Schema} {shape : Shape} {element key value : ElementType} {rules : FieldRules}
  {e : CheckError}

theorem checkRules_repeated_eq_ok_iff {message : Option MessageRules}
    {rs : List (RepeatedRule FieldRules)} :
    checkRules schema (.repeated element) ⟨message, some (.repeated rs)⟩ false = .ok () ↔
      message = none ∧ checkRepeated schema element false rs = .ok () := by
  cases message with
  | none => exact ⟨fun accepted => ⟨rfl, accepted⟩, And.right⟩
  | some m =>
      rw [checkRules, checkPosition_eq_ok_iff]
      simp [valueMismatch?_repeated_ne_none]

theorem checkRules_map_eq_ok_iff {message : Option MessageRules}
    {rs : List (MapRule FieldRules)} :
    checkRules schema (.map key value) ⟨message, some (.map rs)⟩ false = .ok () ↔
      message = none ∧ checkMap schema key value false rs = .ok () := by
  cases message with
  | none => exact ⟨fun accepted => ⟨rfl, accepted⟩, And.right⟩
  | some m =>
      rw [checkRules, checkPosition_eq_ok_iff]
      simp [valueMismatch?_map_ne_none]

private theorem NestedRejection.checkRules_eq_error {segment : String} {fault : CheckFault}
    (nested : NestedRejection schema shape rules segment fault) :
    checkRules schema shape rules false = .error ⟨[segment], fault⟩ := by
  obtain ⟨message, typed⟩ := rules
  cases nested with
  | items declared reached held rejected =>
      subst declared
      obtain ⟨rfl, tested⟩ := checkRules_repeated_eq_ok_iff.mp reached
      rw [checkRepeated_eq_nesting] at tested
      refine Eq.trans checkRepeated_eq_nesting ?_
      exact checkAlternatives_error_of_inside (fun seen => RepeatedRule.checkOwn_hollow seen _)
        tested (checkNested_eq_error held rejected)
  | keys declared reached held rejected =>
      subst declared
      obtain ⟨rfl, tested⟩ := checkRules_map_eq_ok_iff.mp reached
      rw [checkMap_eq_nesting] at tested
      refine Eq.trans checkMap_eq_nesting ?_
      refine checkAlternatives_error_of_inside (fun seen => MapRule.checkOwn_hollow seen _)
        tested ?_
      rw [checkNested_eq_error held rejected]
      rfl
  | values declared reached held rejected =>
      subst declared
      obtain ⟨rfl, tested⟩ := checkRules_map_eq_ok_iff.mp reached
      rw [checkMap_eq_nesting] at tested
      refine Eq.trans checkMap_eq_nesting ?_
      refine checkAlternatives_error_of_inside (fun seen => MapRule.checkOwn_hollowValues seen _)
        tested ?_
      -- Only the values were left out of what was reached, so the keys have been passed.
      obtain ⟨_, _, _, _, inside⟩ := checkAlternatives_concat_eq_ok_iff.mp tested
      obtain ⟨_, keys, _⟩ := bind_eq_ok_iff.mp inside
      exact bind_eq_error_iff.mpr (.inr ⟨(), keys, checkNested_eq_error held rejected⟩)

private theorem checkPosition_error_cases {typed : TypedRules FieldRules → Verdict}
    (collection : shape.valueMismatch? .message none ≠ none)
    (failed : checkPosition shape rules false typed = .error e) :
    e.path = [] ∨ rules.message = none ∧ ∃ t ∈ rules.typed, typed t = .error e := by
  obtain ⟨message, declared⟩ := rules
  cases message with
  | some m =>
      obtain ⟨mismatch, refused⟩ := Option.ne_none_iff_exists'.mp collection
      refine .inl ?_
      simp only [checkPosition, refused] at failed
      cases failed
      rfl
  | none =>
      cases declared with
      | none => cases failed
      | some t =>
          rcases bind_eq_error_iff.mp failed with mismatch | ⟨_, _, inside⟩
          · exact .inl (checkMismatch_unrouted e mismatch)
          · exact .inr ⟨rfl, t, rfl, inside⟩

private theorem checkRepeated_error_cases {rs : List (RepeatedRule FieldRules)}
    (failed : checkRepeated schema element false rs = .error e) :
    e.path = [] ∨ ∃ segment, e.path = [segment] ∧
      NestedRejection schema (.repeated element) ⟨none, some (.repeated rs)⟩ segment e.fault := by
  rw [checkRepeated_eq_nesting] at failed
  rcases checkAlternatives_error_cases RepeatedRule.checkOwn_unrouted failed with
    own | ⟨before, r, after, rfl, inside, reached⟩
  · exact .inl own
  · obtain ⟨path, inner, held, e', rejected, same⟩ := checkNested_error inside
    refine .inr ⟨"items", path, same ▸ .items rfl ?_ held rejected⟩
    rw [checkRules_repeated_eq_ok_iff, checkRepeated_eq_nesting]
    exact ⟨rfl, reached r.hollow (fun seen => r.checkOwn_hollow seen) (checkNested_hollow r.items)⟩

private theorem checkMap_error_cases {rs : List (MapRule FieldRules)}
    (failed : checkMap schema key value false rs = .error e) :
    e.path = [] ∨ ∃ segment, e.path = [segment] ∧
      NestedRejection schema (.map key value) ⟨none, some (.map rs)⟩ segment e.fault := by
  rw [checkMap_eq_nesting] at failed
  rcases checkAlternatives_error_cases MapRule.checkOwn_unrouted failed with
    own | ⟨before, r, after, rfl, inside, reached⟩
  · exact .inl own
  · rcases bind_eq_error_iff.mp inside with keys | ⟨_, keys, values⟩
    · obtain ⟨path, inner, held, e', rejected, same⟩ := checkNested_error keys
      refine .inr ⟨"keys", path, same ▸ .keys rfl ?_ held rejected⟩
      rw [checkRules_map_eq_ok_iff, checkMap_eq_nesting]
      refine ⟨rfl, reached r.hollow (fun seen => r.checkOwn_hollow seen) ?_⟩
      exact bind_eq_ok_iff.mpr ⟨(), checkNested_hollow r.keys, checkNested_hollow r.values⟩
    · obtain ⟨path, inner, held, e', rejected, same⟩ := checkNested_error values
      refine .inr ⟨"values", path, same ▸ .values rfl ?_ held rejected⟩
      rw [checkRules_map_eq_ok_iff, checkMap_eq_nesting]
      refine ⟨rfl, reached r.hollowValues (fun seen => r.checkOwn_hollowValues seen) ?_⟩
      exact bind_eq_ok_iff.mpr ⟨(), keys, checkNested_hollow r.values⟩

private theorem checkRules_error_cases (failed : checkRules schema shape rules false = .error e) :
    e.path = [] ∨ ∃ segment, e.path = [segment] ∧
      NestedRejection schema shape rules segment e.fault := by
  cases shape with
  | single element => exact .inl (checkElement_unrouted e failed)
  | repeated element =>
      rcases checkPosition_error_cases valueMismatch?_repeated_ne_none failed with
        own | ⟨message, t, declared, inside⟩
      · exact .inl own
      · obtain ⟨_, _⟩ := rules
        subst message declared
        cases t with
        | repeated rs => exact checkRepeated_error_cases inside
        | _ => cases inside
  | map key value =>
      rcases checkPosition_error_cases valueMismatch?_map_ne_none failed with
        own | ⟨message, t, declared, inside⟩
      · exact .inl own
      · obtain ⟨_, _⟩ := rules
        subst message declared
        cases t with
        | map rs => exact checkMap_error_cases inside
        | _ => cases inside

end Rules

/-- The first member of a list that a test rejects, and its error. -/
inductive FirstRejected {α : Type} (check : α → Verdict) : List α → α → CheckError → Prop
  | here {x : α} {xs : List α} {e : CheckError} (rejected : check x = .error e) :
      FirstRejected check (x :: xs) x e
  | later {y x : α} {xs : List α} {e : CheckError} (accepted : check y = .ok ())
      (rest : FirstRejected check xs x e) : FirstRejected check (y :: xs) x e

namespace FirstRejected

variable {α : Type} {check : α → Verdict} {xs : List α} {x : α} {e : CheckError}

private theorem eq_error (first : FirstRejected check xs x e) : check x = .error e := by
  induction first with
  | here rejected => exact rejected
  | later _ _ ih => exact ih

theorem forM_within_eq_error_iff {name : α → String} :
    (xs.forM fun x => (check x).within (name x)) = .error e ↔
      ∃ x e', FirstRejected check xs x e' ∧ e = ⟨name x :: e'.path, e'.fault⟩ := by
  induction xs with
  | nil =>
      refine ⟨nofun, fun rejection => ?_⟩
      obtain ⟨x, e', first, _⟩ := rejection
      cases first
  | cons y xs ih =>
      rw [List.forM_eq_forM, List.forM_cons, ← List.forM_eq_forM, bind_eq_error_iff,
        exists_unit_iff, Verdict.within_eq_error_iff, Verdict.within_eq_ok_iff, ih]
      constructor
      · rintro (⟨e', rejected, same⟩ | ⟨accepted, x, e', rest, same⟩)
        · exact ⟨y, e', .here rejected, same⟩
        · exact ⟨x, e', .later accepted rest, same⟩
      · rintro ⟨x, e', first, same⟩
        cases first with
        | here rejected => exact .inl ⟨e', rejected, same⟩
        | later accepted rest => exact .inr ⟨accepted, x, e', rest, same⟩

end FirstRejected

/-- What a message is rejected for, with the route to it from the message on. Fields and oneofs
count in the order in which they are declared. -/
inductive Violation (schema : Schema) (message : Message) : List String → CheckFault → Prop
  | disabled {e : SchemaError} (malformed : message.isDisabled = .error e) :
      Violation schema message [] (.schema e)
  | errorBase {e : SchemaError} (enabled : message.isDisabled = .ok false)
      (malformed : message.errorBase = .error e) : Violation schema message [] (.schema e)
  | field {base : Option ErrorBase} {field : Field} {e : CheckError}
      (enabled : message.isDisabled = .ok false) (readable : message.errorBase = .ok base)
      (first : FirstRejected (checkField schema) message.fields field e)
      (outside : ∀ rules, field.rules = .ok (some rules) →
        ∀ segment fault, ¬ NestedRejection schema field.shape rules segment fault) :
      Violation schema message [field.name] e.fault
  | nested {base : Option ErrorBase} {field : Field} {e : CheckError} {rules : FieldRules}
      {segment : String}
      (enabled : message.isDisabled = .ok false) (readable : message.errorBase = .ok base)
      (first : FirstRejected (checkField schema) message.fields field e)
      (declared : field.rules = .ok (some rules))
      (inside : NestedRejection schema field.shape rules segment e.fault) :
      Violation schema message [field.name, segment] e.fault
  | oneof {base : Option ErrorBase} {oneof : Oneof} {e : CheckError}
      (enabled : message.isDisabled = .ok false) (readable : message.errorBase = .ok base)
      (accepted : ∀ field ∈ message.fields, checkField schema field = .ok ())
      (first : FirstRejected checkOneof message.oneofs oneof e) :
      Violation schema message [oneof.name] e.fault

section Declarations

variable {schema : Schema} {message : Message} {field : Field} {e : CheckError}

private theorem checkField_of_rules {rules : FieldRules}
    (declared : field.rules = .ok (some rules)) :
    checkField schema field = checkRules schema field.shape rules false := by
  rw [checkField, declared]
  rfl

private theorem checkField_error_cases (failed : checkField schema field = .error e) :
    (e.path = [] ∧ ∀ rules, field.rules = .ok (some rules) →
        ∀ segment fault, ¬ NestedRejection schema field.shape rules segment fault) ∨
      ∃ rules segment, field.rules = .ok (some rules) ∧ e.path = [segment] ∧
        NestedRejection schema field.shape rules segment e.fault := by
  cases declared : field.rules with
  | error e' =>
      rw [checkField, declared] at failed
      cases failed
      exact .inl ⟨rfl, nofun⟩
  | ok rules? =>
      cases rules? with
      | none =>
          rw [checkField, declared] at failed
          cases failed
      | some rules =>
          rw [checkField_of_rules declared] at failed
          rcases checkRules_error_cases failed with own | ⟨segment, path, inside⟩
          · -- A nested rule set at fault would be named on the route.
            refine .inl ⟨own, fun rules' same segment fault inside => ?_⟩
            cases same
            cases inside.checkRules_eq_error.symm.trans failed
            cases own
          · exact .inr ⟨rules, segment, rfl, path, inside⟩

private theorem checkDeclarations_of_enabled {base : Option ErrorBase}
    (enabled : message.isDisabled = .ok false) (readable : message.errorBase = .ok base) :
    checkDeclarations schema message = (do
      message.fields.forM fun field => (checkField schema field).within field.name
      message.oneofs.forM fun oneof => (checkOneof oneof).within oneof.name) := by
  rw [checkDeclarations, enabled, readable]
  rfl

private theorem violation_of_checkDeclarations
    (failed : checkDeclarations schema message = .error e) :
    Violation schema message e.path e.fault := by
  rw [checkDeclarations, bind_eq_error_iff, SchemaError.lift_eq_error_iff] at failed
  rcases failed with ⟨e', malformed, rfl⟩ | ⟨disabled, known, failed⟩
  · exact .disabled malformed
  rw [SchemaError.lift_eq_ok_iff] at known
  cases disabled with
  | true => cases failed
  | false =>
      have failed := bind_eq_error_iff.mp failed
      rw [discard_eq_error_iff, SchemaError.lift_eq_error_iff] at failed
      rcases failed with ⟨e', malformed, rfl⟩ | ⟨⟨⟩, readable, failed⟩
      · exact .errorBase known malformed
      simp only [discard_eq_ok_iff, SchemaError.lift_eq_ok_iff] at readable
      obtain ⟨base, readable⟩ := readable
      rcases bind_eq_error_iff.mp failed with fields | ⟨_, fields, oneofs⟩
      · obtain ⟨field, e', first, rfl⟩ := FirstRejected.forM_within_eq_error_iff.mp fields
        rcases checkField_error_cases first.eq_error with
          ⟨own, outside⟩ | ⟨rules, segment, declared, path, inside⟩
        · have found : Violation schema message [field.name] e'.fault :=
            .field known readable first outside
          rwa [own]
        · have found : Violation schema message [field.name, segment] e'.fault :=
            .nested known readable first declared inside
          rwa [path]
      · obtain ⟨oneof, e', first, rfl⟩ := FirstRejected.forM_within_eq_error_iff.mp oneofs
        have own : e'.path = [] := checkOneof_unrouted e' first.eq_error
        have accepted := forM_eq_ok_iff.mp fields
        simp only [Verdict.within_eq_ok_iff] at accepted
        have found : Violation schema message [oneof.name] e'.fault :=
          .oneof known readable accepted first
        rwa [own]

private theorem Violation.checkDeclarations_eq_error {rest : List String} {fault : CheckFault}
    (violation : Violation schema message rest fault) :
    checkDeclarations schema message = .error ⟨rest, fault⟩ := by
  cases violation with
  | disabled malformed =>
      rw [checkDeclarations, malformed]
      rfl
  | errorBase enabled malformed =>
      rw [checkDeclarations, enabled, malformed]
      rfl
  | field enabled readable first outside =>
      rw [checkDeclarations_of_enabled enabled readable, bind_eq_error_iff]
      refine .inl (FirstRejected.forM_within_eq_error_iff.mpr ⟨_, _, first, ?_⟩)
      rcases checkField_error_cases first.eq_error with ⟨own, _⟩ | ⟨_, _, declared, _, inside⟩
      · rw [own]
      · exact absurd inside (outside _ declared _ _)
  | nested enabled readable first declared inside =>
      rw [checkDeclarations_of_enabled enabled readable, bind_eq_error_iff]
      refine .inl (FirstRejected.forM_within_eq_error_iff.mpr ⟨_, _, first, ?_⟩)
      have failed := first.eq_error
      rw [checkField_of_rules declared, inside.checkRules_eq_error] at failed
      rw [← Except.error.inj failed]
  | oneof enabled readable accepted first =>
      rw [checkDeclarations_of_enabled enabled readable, bind_eq_error_iff]
      refine .inr ⟨(), ?_, FirstRejected.forM_within_eq_error_iff.mpr ⟨_, _, first, ?_⟩⟩
      · exact forM_eq_ok_iff.mpr fun field member =>
          Verdict.within_eq_ok_iff.mpr (accepted field member)
      · have own := checkOneof_unrouted _ first.eq_error
        rw [own]

theorem Violation.length_le_two {rest : List String} {fault : CheckFault}
    (violation : Violation schema message rest fault) : rest.length ≤ 2 := by
  cases violation <;> simp

end Declarations

/-- A file is rejected for its first rejected message, with the exact route to what is at fault. The
route names the file, the message, its first rejected field or else its first rejected oneof, and a
nested rule set just if it is the one at fault. -/
theorem checkFile_route (schema : Schema) (file : File) (e : CheckError) :
    (checkFile schema file = .error e ↔
      ∃ message inner rest,
        FirstRejected (checkMessage schema file) file.messages message inner ∧
        Violation schema message rest inner.fault ∧
        e = ⟨file.name :: file.fullName message.name :: rest, inner.fault⟩) ∧
    (checkFile schema file = .error e → 2 ≤ e.path.length ∧ e.path.length ≤ 4) := by
  have route : checkFile schema file = .error e ↔
      ∃ message inner rest,
        FirstRejected (checkMessage schema file) file.messages message inner ∧
        Violation schema message rest inner.fault ∧
        e = ⟨file.name :: file.fullName message.name :: rest, inner.fault⟩ := by
    refine FirstRejected.forM_within_eq_error_iff.trans (exists_congr fun message => ?_)
    constructor
    · rintro ⟨inner, first, rfl⟩
      obtain ⟨e', failed, rfl⟩ := Verdict.within_eq_error_iff.mp first.eq_error
      exact ⟨_, e'.path, first, violation_of_checkDeclarations failed, rfl⟩
    · rintro ⟨inner, rest, first, violation, rfl⟩
      refine ⟨inner, first, ?_⟩
      obtain ⟨e', failed, same⟩ := Verdict.within_eq_error_iff.mp first.eq_error
      rw [violation.checkDeclarations_eq_error] at failed
      rw [same, ← Except.error.inj failed]
  refine ⟨route, fun failed => ?_⟩
  obtain ⟨message, inner, rest, _, violation, rfl⟩ := route.mp failed
  have short := violation.length_le_two
  simp only [List.length_cons]
  exact ⟨by omega, by omega⟩

/-! Values of a map that are at fault in the second alternative, in the second message of a file. -/

def tariff : Field where
  name := "tariff"
  shape := .map (.scalar .string) (.scalar (.numeric .int32))
  extensions := Extensions.insert {} rulesKey (.obj [("map", .obj [("rules", .arr [
    .obj [("min_pairs", .int 1), ("error", .obj [("method", .str "noFares")])],
    .obj [("values", .obj [("int32", .obj [("rules", .arr [
      .obj [("gt", .int 5), ("lt", .int 5)]])])]),
      ("error", .obj [("method", .str "badFare")])]])])])

def fares : File where
  name := "fares.proto"
  package := "acme"
  messages := [{ name := "Stop" }, { name := "Line", fields := [tariff] }]

theorem fares_route :
    checkFile (.ofFiles [fares]) fares =
      .error ⟨["fares.proto", "acme.Line", "tariff", "values"],
        .conflict (.equalBounds "gt" "lt")⟩ ∧
    ∃ message inner,
      FirstRejected (checkMessage (.ofFiles [fares]) fares) fares.messages message inner ∧
      Violation (.ofFiles [fares]) message ["tariff", "values"] inner.fault := by
  have failed : checkFile (.ofFiles [fares]) fares =
      .error ⟨["fares.proto", "acme.Line", "tariff", "values"],
        .conflict (.equalBounds "gt" "lt")⟩ := rfl
  obtain ⟨message, inner, rest, first, violation, same⟩ :=
    (checkFile_route (.ofFiles [fares]) fares _).1.mp failed
  obtain ⟨path, _⟩ := CheckError.mk.inj same
  obtain ⟨_, path⟩ := List.cons.inj path
  obtain ⟨_, rfl⟩ := List.cons.inj path
  exact ⟨failed, message, inner, first, violation⟩

end ProtoRules
