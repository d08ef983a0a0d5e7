import ProtoRules.Proofs.JavaNested

/-!
Agreement of the two passes that write a class. The constants of a field are declared by one pass
and referred to by the other.
-/

namespace ProtoRules.Java

open Constant Statement

variable {schema : Schema} {c e : Context} {v : ValueRules} {ks ls : List Constant}
  {ss : List Statement}

section Errors

variable {α : Type} {rules : List α} {own : α → Option ErrorSpec}

def ownErrors (c : Context) (own : α → Option ErrorSpec) (rules : List α) : List Constant :=
  alternatives rules fun r i => error c i (own r)

private theorem ownErrors_declares (c : Context) (own : α → Option ErrorSpec) (rules : List α) :
    Declares c (rules.map fun r => ⟨[], own r⟩) (ownErrors c own rules) := by
  have bare : Declares c (rules.map fun r => ⟨[], own r⟩)
      (alternatives rules fun r i => [] ++ error c i (own r)) :=
    alternatives_declares (fun _ _ => List.nil_sublist _) fun _ _ => .nil _
  exact bare

private theorem ruleNames_ownErrors (c : Context) (own : α → Option ErrorSpec) (rules : List α) :
    ruleNames (ownErrors c own rules) = [] := by
  rw [ownErrors, alternatives, ruleNames_flatMap]
  simp [ruleNames_error]

def DeclaredError (c : Context) (ks : List Constant) (name : String) (spec : ErrorSpec) : Prop :=
  ⟨errorType, name, errorCall c.errorBase spec⟩ ∈ ks

private theorem declaredError_of_raised (outermost : c.Outermost) {i : Nat} {r : α}
    (position : rules[i]? = some r) {name : String} {spec : ErrorSpec}
    (raised : Raised c i (own r) name spec) :
    DeclaredError c (ownErrors c own rules) name spec := by
  obtain ⟨rfl, selected⟩ := raised
  rw [outermost.error_eq] at selected
  refine (ownErrors_declares c own rules).errors outermost.owns i ⟨[], own r⟩ spec ?_ selected
  rw [List.getElem?_map, position, Option.map_some]

theorem ownErrors_marked (c : Context) (own : α → Option ErrorSpec) (rules : List α) :
    ∃ ms, Marked c ms (ownErrors c own rules) ∧ ∀ m ∈ ms, ∃ i, m = .error i := by
  refine ⟨_, (ownErrors_declares c own rules).marks, fun m member => ?_⟩
  rw [entryMarks_map] at member
  obtain ⟨⟨r, i⟩, _, member⟩ := List.mem_flatMap.mp member
  refine ⟨i, ?_⟩
  simp only [Entry.marks, List.map_nil, List.nil_append] at member
  split at member
  · obtain ⟨_, _, rfl⟩ := Option.map_eq_some_iff.mp (Option.mem_toList.mp member)
    rfl
  · cases member

end Errors

private theorem repeatedStatements_refers {element : ElementType}
    {rules : List (RepeatedRule FieldRules)} {items : List Constant} (outermost : c.Outermost)
    (accepted : Context.Nested.Accepted schema c
      ⟨element, RepeatedRule.items, RepeatedRule.error, rules⟩)
    (inside : writeNested (constantsPass schema)
      ⟨element, RepeatedRule.items, RepeatedRule.error, rules⟩ c ⟨"", "", none⟩ = .ok items)
    (written : repeatedStatements (writeNested (statementsPass schema)
      ⟨element, RepeatedRule.items, RepeatedRule.error, rules⟩ c) c rules = .ok ss) :
    Refers ss (ruleNames items) (DeclaredError c (ownErrors c RepeatedRule.error rules)) := by
  obtain ⟨each, parts, written⟩ := bind_eq_ok_iff.mp written
  obtain ⟨rest, embedded, written⟩ := ite_steps_eq_ok_iff.mp written
  cases written
  have declared : Refers each (rules.zipIdx.flatMap fun position =>
      if position.1.items.isSome then ruleNames items else [])
      (DeclaredError c (ownErrors c RepeatedRule.error rules)) := by
    refine Refers.concatM ?_ parts
    rintro ⟨r, i⟩ member part one
    have position := List.mk_mem_zipIdx_iff_getElem?.mp member
    obtain ⟨calls, first, one⟩ := bind_eq_ok_iff.mp one
    obtain ⟨nested, second, one⟩ := ite_steps_eq_ok_iff.mp one
    cases one
    have called := callStatements_refers (.ofRepeated r) first
    have held := held_refers accepted outermost inside position second rfl rfl rfl
    refine (Refers.mono (called.append (held.forAll _ _ _)) fun name spec raised => ?_).guarded _
    exact declaredError_of_raised outermost position raised
  refine (declared.congr (mem_heldNames_iff accepted inside rfl)).beside ?_
  exact (operandsAll_forAll _ _ _ rest).trans (embedded_idle accepted rfl embedded)

private theorem mapStatements_refers {key value : ElementType} {rules : List (MapRule FieldRules)}
    {keys values : List Constant} (outermost : c.Outermost)
    (keysAccepted : Context.Nested.Accepted schema c ⟨key, MapRule.keys, MapRule.error, rules⟩)
    (valuesAccepted : Context.Nested.Accepted schema c
      ⟨value, MapRule.values, MapRule.error, rules⟩)
    (keysInside : writeNested (constantsPass schema) ⟨key, MapRule.keys, MapRule.error, rules⟩ c
      ⟨"key", "Key", none⟩ = .ok keys)
    (valuesInside : writeNested (constantsPass schema)
      ⟨value, MapRule.values, MapRule.error, rules⟩ c ⟨"value", "Value", none⟩ = .ok values)
    (written : mapStatements
      (writeNested (statementsPass schema) ⟨key, MapRule.keys, MapRule.error, rules⟩ c)
      (writeNested (statementsPass schema) ⟨value, MapRule.values, MapRule.error, rules⟩ c)
      c rules = .ok ss) :
    Refers ss (ruleNames keys ++ ruleNames values)
      (DeclaredError c (ownErrors c MapRule.error rules)) := by
  obtain ⟨each, parts, written⟩ := bind_eq_ok_iff.mp written
  obtain ⟨rest, embedded, written⟩ := ite_steps_eq_ok_iff.mp written
  cases written
  have declared : Refers each (rules.zipIdx.flatMap fun position =>
      (if position.1.keys.isSome then ruleNames keys else []) ++
        if position.1.values.isSome then ruleNames values else [])
      (DeclaredError c (ownErrors c MapRule.error rules)) := by
    refine Refers.concatM ?_ parts
    rintro ⟨r, i⟩ member part one
    have position := List.mk_mem_zipIdx_iff_getElem?.mp member
    obtain ⟨calls, first, one⟩ := bind_eq_ok_iff.mp one
    obtain ⟨nestedKeys, second, one⟩ := ite_steps_eq_ok_iff.mp one
    obtain ⟨nestedValues, third, one⟩ := ite_steps_eq_ok_iff.mp one
    cases one
    have called := callStatements_refers (.ofMap r) first
    have heldKeys := held_refers keysAccepted outermost keysInside position second rfl rfl rfl
    have heldValues := held_refers valuesAccepted outermost valuesInside position third rfl rfl rfl
    have both := (called.append (heldKeys.forAll "MapValidation.validateParts"
      (accessor c ++ ".keySet()") "key")).append (heldValues.forAll "MapValidation.validateParts"
      (accessor c ++ ".values()") "value")
    refine (both.mono fun name spec raised => ?_).guarded _
    exact declaredError_of_raised outermost position raised
  refine (declared.congr fun name => ?_).beside ?_
  · have inKeys := mem_heldNames_iff keysAccepted keysInside rfl name
    have inValues := mem_heldNames_iff valuesAccepted valuesInside rfl name
    rw [List.mem_append, ← inKeys, ← inValues]
    simp only [List.mem_flatMap, List.mem_append, and_or_left, exists_or]
  · exact (operandsAll_forAll _ _ _ rest).trans (embedded_idle valuesAccepted rfl embedded)

/-- What is declared for a field goes together with what its statements refer to: no name is
declared twice, the names of constants for rules are those that are referred to, and every error
that is referred to is declared as the error to be raised. -/
structure Agreement (base : Option ErrorBase) (constants : List Constant)
    (statements : List Statement) : Prop where
  distinct : (constants.map Constant.name).Nodup
  rules : ∀ name,
    Operand.constant name ∈ operandsAll statements ↔ name ∈ ruleNames constants
  errors : ∀ name spec, Operand.error name spec ∈ operandsAll statements →
    ⟨errorType, name, errorCall base spec⟩ ∈ constants

section Fields

variable {declaredRules : FieldRules}

theorem render_of_repeated {rules : List (RepeatedRule FieldRules)}
    (checked : c.Checked schema declaredRules) (own : c.rules = .typed (.repeated rules)) :
    ∃ element, Context.Nested.Accepted schema c
        ⟨element, RepeatedRule.items, RepeatedRule.error, rules⟩ ∧
      ∀ {β : Type} (pass : Pass β), pass.render c = pass.repeated
        (writeNested pass ⟨element, RepeatedRule.items, RepeatedRule.error, rules⟩ c) c rules := by
  obtain ⟨element, accepted, reached⟩ := checked.items own
  refine ⟨element, accepted, fun pass => ?_⟩
  rw [Pass.render, own, reached]
  rfl

theorem render_of_map {rules : List (MapRule FieldRules)}
    (checked : c.Checked schema declaredRules) (own : c.rules = .typed (.map rules)) :
    ∃ key value,
      Context.Nested.Accepted schema c ⟨key, MapRule.keys, MapRule.error, rules⟩ ∧
      Context.Nested.Accepted schema c ⟨value, MapRule.values, MapRule.error, rules⟩ ∧
      ∀ {β : Type} (pass : Pass β), pass.render c = pass.map
        (writeNested pass ⟨key, MapRule.keys, MapRule.error, rules⟩ c)
        (writeNested pass ⟨value, MapRule.values, MapRule.error, rules⟩ c) c rules := by
  obtain ⟨key, keysAccepted, keysReached⟩ := checked.keys own
  obtain ⟨value, valuesAccepted, valuesReached⟩ := checked.values own
  refine ⟨key, value, keysAccepted, valuesAccepted, fun pass => ?_⟩
  rw [Pass.render, own, keysReached, valuesReached]
  rfl

theorem render_of_single {β : Type} (pass : Pass β)
    (values : ∀ t, c.rules = .typed t → ∃ v, t = .value v) : pass.render c = pass.single c := by
  unfold Pass.render
  split
  · rename_i rules own
    obtain ⟨v, same⟩ := values _ own
    cases same
  · rename_i rules own
    obtain ⟨v, same⟩ := values _ own
    cases same
  · rfl

private theorem repeated_agrees {rules : List (RepeatedRule FieldRules)}
    (checked : c.Checked schema declaredRules) (outermost : c.Outermost)
    (own : c.rules = .typed (.repeated rules)) (declared : (constantsPass schema).render c = .ok ks)
    (written : (statementsPass schema).render c = .ok ss) : Agreement c.errorBase ks ss := by
  obtain ⟨element, accepted, render⟩ := render_of_repeated checked own
  rw [render] at declared written
  obtain ⟨items, inside, same⟩ := bind_eq_ok_iff.mp declared
  obtain rfl : items ++ ownErrors c RepeatedRule.error rules = ks := Except.ok.inj same
  have refers := repeatedStatements_refers outermost accepted inside written
  obtain ⟨ms, marked, perm⟩ := nested_marked accepted rfl inside
  obtain ⟨ns, errorsMarked, error⟩ := ownErrors_marked c RepeatedRule.error rules
  have marked : Marked c ms items := marked.congr rfl outermost.plain.symm
  constructor
  · refine (marked.append errorsMarked ?_).nodup
    intro m first second
    obtain ⟨label, i, rfl⟩ := exists_rule_of_mem_valueMarks (perm.mem_iff.mp first)
    obtain ⟨k, same⟩ := error _ second
    cases same
  · intro name
    rw [refers.constants, ruleNames_append, ruleNames_ownErrors, List.append_nil]
  · intro name spec member
    exact List.mem_append_right _ (refers.errors name spec member)

private theorem map_agrees {rules : List (MapRule FieldRules)}
    (checked : c.Checked schema declaredRules) (outermost : c.Outermost)
    (own : c.rules = .typed (.map rules)) (declared : (constantsPass schema).render c = .ok ks)
    (written : (statementsPass schema).render c = .ok ss) : Agreement c.errorBase ks ss := by
  obtain ⟨key, value, keysAccepted, valuesAccepted, render⟩ := render_of_map checked own
  rw [render] at declared written
  obtain ⟨keys, keysInside, declared⟩ := bind_eq_ok_iff.mp declared
  obtain ⟨values, valuesInside, same⟩ := bind_eq_ok_iff.mp declared
  obtain rfl : keys ++ values ++ ownErrors c MapRule.error rules = ks := Except.ok.inj same
  have refers := mapStatements_refers outermost keysAccepted valuesAccepted keysInside valuesInside
    written
  obtain ⟨ms, keysMarked, _⟩ := nested_marked keysAccepted rfl keysInside
  obtain ⟨ns, valuesMarked, _⟩ := nested_marked valuesAccepted rfl valuesInside
  obtain ⟨es, errorsMarked, _⟩ := ownErrors_marked c MapRule.error rules
  constructor
  · have keyApart : "Key" ≠ c.suffix := by
      rw [outermost.plain]
      decide
    have valueApart : "Value" ≠ c.suffix := by
      rw [outermost.plain]
      decide
    have apart : "Key" ≠ "Value" := by decide
    have keysApart := keysMarked.disjoint valuesMarked rfl apart
    have keysErrors := keysMarked.disjoint errorsMarked rfl keyApart
    have valuesErrors := valuesMarked.disjoint errorsMarked rfl valueApart
    rw [List.map_append, List.map_append]
    refine (keysMarked.nodup.append valuesMarked.nodup keysApart).append errorsMarked.nodup ?_
    exact List.disjoint_append_left.mpr ⟨keysErrors, valuesErrors⟩
  · intro name
    rw [refers.constants, ruleNames_append, ruleNames_append, ruleNames_ownErrors,
      List.append_nil]
  · intro name spec member
    exact List.mem_append_right _ (refers.errors name spec member)

private theorem single_agrees (checked : c.Checked schema declaredRules) (outermost : c.Outermost)
    (values : ∀ t, c.rules = .typed t → ∃ v, t = .value v)
    (declared : (constantsPass schema).render c = .ok ks)
    (written : (statementsPass schema).render c = .ok ss) : Agreement c.errorBase ks ss := by
  rw [render_of_single _ values] at declared written
  have refers := single_refers checked declared written
  obtain ⟨ms, marked, _⟩ := single_marked declared
  refine ⟨marked.nodup, refers.constants, fun name spec member => ?_⟩
  have known := refers.errors name spec member
  rw [Known, if_pos outermost.owns] at known
  exact known

theorem single_isOk_iff (checked : c.Checked schema declaredRules)
    (values : ∀ t, c.rules = .typed t → ∃ v, t = .value v) :
    (∃ ks, (constantsPass schema).render c = .ok ks) ↔
      ∃ ss, (statementsPass schema).render c = .ok ss := by
  rw [render_of_single _ values, render_of_single _ values, singleConstants_isOk_iff values,
    singleStatements_isOk_iff checked values]

theorem repeated_isOk_iff {rules : List (RepeatedRule FieldRules)}
    (checked : c.Checked schema declaredRules) (own : c.rules = .typed (.repeated rules)) :
    (∃ ks, (constantsPass schema).render c = .ok ks) ↔
      ∃ ss, (statementsPass schema).render c = .ok ss := by
  obtain ⟨element, accepted, render⟩ := render_of_repeated checked own
  obtain ⟨typed, silent, nested⟩ := exists_nestedTyped accepted
  have declares := (nested ⟨"", "", none⟩ (.of_none rfl _)).1
  rw [render, render]
  constructor
  · rintro ⟨ks, declared⟩
    obtain ⟨items, inside, _⟩ := bind_eq_ok_iff.mp declared
    have holds := declares.mp ⟨items, inside⟩
    refine (repeatedStatements_faultsWithin (checked.repeated_raises own) ?_).isOk
    intro step within
    obtain ⟨ss, written⟩ := (nested step within).2.mpr holds
    exact .of_eq_ok written
  · rintro ⟨ss, written⟩
    obtain ⟨each, parts, _⟩ := bind_eq_ok_iff.mp written
    have holds : typed := by
      refine of_held silent fun r i position held => ?_
      have bound : i < rules.length := (List.getElem?_eq_some_iff.mp position).1
      obtain ⟨part, one⟩ :=
        concatM_eq_ok parts (r, i) (List.mk_mem_zipIdx_iff_getElem?.mpr position)
      obtain ⟨calls, _, one⟩ := bind_eq_ok_iff.mp one
      obtain ⟨items, second, _⟩ := ite_steps_eq_ok_iff.mp one
      have held : r.items.isSome = true := held
      rw [if_pos held] at second
      exact (nested _ (.of_some rfl bound)).2.mp ⟨items, second⟩
    obtain ⟨items, inside⟩ := declares.mpr holds
    exact ⟨_, bind_eq_ok_iff.mpr ⟨items, inside, rfl⟩⟩

theorem map_isOk_iff {rules : List (MapRule FieldRules)}
    (checked : c.Checked schema declaredRules) (own : c.rules = .typed (.map rules)) :
    (∃ ks, (constantsPass schema).render c = .ok ks) ↔
      ∃ ss, (statementsPass schema).render c = .ok ss := by
  obtain ⟨key, value, keysAccepted, valuesAccepted, render⟩ := render_of_map checked own
  obtain ⟨keysTyped, keysSilent, keysNested⟩ := exists_nestedTyped keysAccepted
  obtain ⟨valuesTyped, valuesSilent, valuesNested⟩ := exists_nestedTyped valuesAccepted
  have keysDeclare := (keysNested ⟨"key", "Key", none⟩ (.of_none rfl _)).1
  have valuesDeclare := (valuesNested ⟨"value", "Value", none⟩ (.of_none rfl _)).1
  rw [render, render]
  constructor
  · rintro ⟨ks, declared⟩
    obtain ⟨keys, keysInside, declared⟩ := bind_eq_ok_iff.mp declared
    obtain ⟨values, valuesInside, _⟩ := bind_eq_ok_iff.mp declared
    have keysHold := keysDeclare.mp ⟨keys, keysInside⟩
    have valuesHold := valuesDeclare.mp ⟨values, valuesInside⟩
    refine (mapStatements_faultsWithin (checked.map_raises own) ?_ ?_).isOk
    · intro step within
      obtain ⟨ss, written⟩ := (keysNested step within).2.mpr keysHold
      exact .of_eq_ok written
    · intro step within
      obtain ⟨ss, written⟩ := (valuesNested step within).2.mpr valuesHold
      exact .of_eq_ok written
  · rintro ⟨ss, written⟩
    obtain ⟨each, parts, _⟩ := bind_eq_ok_iff.mp written
    have steps : ∀ (r : MapRule FieldRules) (i : Nat), rules[i]? = some r →
        (r.keys.isSome = true → keysTyped) ∧ (r.values.isSome = true → valuesTyped) := by
      intro r i position
      have bound : i < rules.length := (List.getElem?_eq_some_iff.mp position).1
      obtain ⟨part, one⟩ :=
        concatM_eq_ok parts (r, i) (List.mk_mem_zipIdx_iff_getElem?.mpr position)
      obtain ⟨calls, _, one⟩ := bind_eq_ok_iff.mp one
      obtain ⟨keys, second, one⟩ := ite_steps_eq_ok_iff.mp one
      obtain ⟨values, third, _⟩ := ite_steps_eq_ok_iff.mp one
      constructor
      · intro held
        rw [if_pos held] at second
        exact (keysNested _ (.of_some rfl bound)).2.mp ⟨keys, second⟩
      · intro held
        rw [if_pos held] at third
        exact (valuesNested _ (.of_some rfl bound)).2.mp ⟨values, third⟩
    have keysHold := of_held keysSilent fun r i position => (steps r i position).1
    have valuesHold := of_held valuesSilent fun r i position => (steps r i position).2
    obtain ⟨keys, keysInside⟩ := keysDeclare.mpr keysHold
    obtain ⟨values, valuesInside⟩ := valuesDeclare.mpr valuesHold
    exact ⟨_, bind_eq_ok_iff.mpr ⟨keys, keysInside, bind_eq_ok_iff.mpr
      ⟨values, valuesInside, rfl⟩⟩⟩

end Fields

/-- Whether the two passes agree on a context: they succeed or fail together, and what they write
goes together. -/
structure PassesAgree (schema : Schema) (c : Context) : Prop where
  success : (∃ ks, (constantsPass schema).render c = .ok ks) ↔
    ∃ ss, (statementsPass schema).render c = .ok ss
  agreement : ∀ ks ss, (constantsPass schema).render c = .ok ks →
    (statementsPass schema).render c = .ok ss → Agreement c.errorBase ks ss

private theorem passesAgree_of_checked {declared : FieldRules} (checked : c.Checked schema declared)
    (outermost : c.Outermost) : PassesAgree schema c := by
  rcases c.rules_cases with values | ⟨rules, own⟩ | ⟨rules, own⟩
  · exact ⟨single_isOk_iff checked values, fun ks ss => single_agrees checked outermost values⟩
  · exact ⟨repeated_isOk_iff checked own, fun ks ss => repeated_agrees checked outermost own⟩
  · exact ⟨map_isOk_iff checked own, fun ks ss => map_agrees checked outermost own⟩

/-- In an accepted file, what is declared for a field of a message and what is referred to there go
together: each name that a rule needs is declared once and no others are, and each error that a
check raises is declared once under the name that it is raised by. -/
theorem declared_constants_are_those_referred_to {file : File} {message : Message} {field : Field}
    (accepted : checkFile schema file = .ok ()) (member : message ∈ file.messages)
    (enabled : message.isDisabled = .ok false) (inside : field ∈ message.fields) :
    ∃ c, Context.ofField message field = .ok c ∧ message.errorBase = .ok c.errorBase ∧
      PassesAgree schema c := by
  obtain ⟨disabled, read, fields⟩ := accepted_of_checkFile accepted member
  cases enabled.symm.trans read
  obtain ⟨c, declared, written, checked⟩ := (fields rfl).ofField_eq_ok inside
  obtain ⟨outermost, readable⟩ := Context.outermost_of_ofField written
  exact ⟨c, written, readable, passesAgree_of_checked checked outermost⟩

/-- A map whose keys and values have rules in different alternatives. -/
def shelves : Field where
  name := "shelves"
  shape := .map (.scalar .string) (.scalar (.numeric .int32))
  extensions := Extensions.insert {} rulesKey (.obj [("map", .obj [("rules", .arr [
    .obj [("values", .obj [("int32", .obj [("rules", .arr [.obj [("gte", .int 0)]])])]),
      ("error", .obj [("method", .str "badShelf")])],
    .obj [("keys", .obj [("string", .obj [("rules", .arr [.obj [("in", .arr [.str "top"])]])])]),
      ("error", .obj [("method", .str "badName")])]])])])

def cupboard : File where
  name := "cupboard.proto"
  messages := [{ name := "Cupboard", fields := [shelves] }]

theorem cupboard_constants_referred_to :
    checkFile (Schema.ofFiles [cupboard]) cupboard = .ok () ∧
      ∃ c, Context.ofField { name := "Cupboard", fields := [shelves] } shelves = .ok c ∧
        (∃ ks, (constantsPass (Schema.ofFiles [cupboard])).render c = .ok ks ∧
          ks.map Constant.name =
            ["shelvesKey__In", "shelvesValue__Gte", "shelves__Error0", "shelves__Error1"]) ∧
        PassesAgree (Schema.ofFiles [cupboard]) c := by
  have accepted : checkFile (Schema.ofFiles [cupboard]) cupboard = .ok () := rfl
  obtain ⟨c, written, _, agree⟩ := declared_constants_are_those_referred_to accepted
    List.mem_cons_self rfl List.mem_cons_self
  refine ⟨accepted, c, written, ?_, agree⟩
  cases written
  exact ⟨_, rfl, rfl⟩

end ProtoRules.Java
