import ProtoRules.Proofs.JavaAccord

/-!
Positions inside collections. The constants reach such a position once for all alternatives, the
statements once for each of them. Either way the names are those of the position, and the errors
are those of the alternatives around it.
-/

namespace ProtoRules.Java

open Constant Statement

variable {schema : Schema} {c e : Context} {v : ValueRules} {ks ls : List Constant}
  {ss : List Statement}

private theorem error_of_borrows (borrows : c.ownsErrors = false) (alternative : Nat)
    (own : Option ErrorSpec) : error c alternative own = [] := by
  rw [error, if_neg (by rw [borrows]; exact Bool.false_ne_true)]

private theorem required_of_borrows (borrows : c.ownsErrors = false) (rules : Option MessageRules) :
    Constant.required c rules = [] := by
  unfold Constant.required
  split
  · rw [if_neg (by rw [borrows]; exact Bool.false_ne_true)]
  · rfl

/-- Where errors are borrowed, only rules on values have constants. -/
private theorem singleConstants_of_borrows (borrows : c.ownsErrors = false) :
    (constantsPass schema).single c = match c.rules with
      | .typed (.value v) => valueConstants schema c v
      | .wrapper v => valueConstants schema c v
      | .typed _ => .error (.projection (.notACollection c.field.name))
      | _ => .ok [] := by
  unfold Pass.single
  cases rules : c.rules with
  | none => rfl
  | message m => exact congrArg Except.ok (required_of_borrows borrows _)
  | typed t => cases t <;> rfl
  | wrapper v =>
      have inside : (constantsPass schema).inner c v "" = valueConstants schema c v :=
        Pass.inner_eq rules ""
      refine Eq.trans ?_ inside
      simp only [constantsPass, required_of_borrows borrows, List.nil_append, bind_pure]

section Nested

variable {α : Type} {p : Context.Nested α} {step other : Context.Step}

def writeNested {β : Type} (pass : Pass β) (p : Context.Nested α) (c : Context)
    (step : Context.Step) : Rendered (List β) :=
  ProjectionError.render (p.context c step) >>= pass.single

structure Reached (schema : Schema) (p : Context.Nested α) (c : Context) (step : Context.Step)
    (e : Context) : Prop where
  checked : ∃ rules, e.Checked schema rules
  child : c.ChildOf step p.element (p.declared.map (·.2))
    (Context.alternativeError p.own p.rules (step.errorIndex <|> p.declared.map (·.1))) e
  written : ∀ {β : Type} (pass : Pass β), writeNested pass p c step = pass.single e

private theorem reached_of_accepted (accepted : p.Accepted schema c)
    (within : step.Within p.rules.length) : ∃ e, Reached schema p c step e := by
  obtain ⟨e, reached, checked, _⟩ := accepted.context_eq_ok within
  refine ⟨e, ⟨_, checked⟩, Context.childOf_of_child reached, fun pass => ?_⟩
  rw [writeNested, reached]
  rfl

namespace Reached

variable {d : Context}

theorem values (reached : Reached schema p c step e) :
    ∀ t, e.rules = .typed t → ∃ v, t = .value v := by
  obtain ⟨rules, checked⟩ := reached.checked
  exact checked.value_of_single reached.child.shape

private theorem rules_eq (first : Reached schema p c step d) (second : Reached schema p c other e) :
    d.rules = e.rules :=
  (Prod.mk.inj (Except.ok.inj (first.child.resolved.symm.trans second.child.resolved))).1

private theorem constants_eq (first : Reached schema p c step d)
    (second : Reached schema p c other e) (suffix : step.suffix = other.suffix) :
    (constantsPass schema).single d = (constantsPass schema).single e := by
  have field : d.field = e.field := first.child.field.trans second.child.field.symm
  have shape : d.shape = e.shape := first.child.shape.trans second.child.shape.symm
  have suffix : d.suffix = e.suffix := by rw [first.child.suffix, suffix, second.child.suffix]
  have values : ∀ v, valueConstants schema d v = valueConstants schema e v := by
    intro v
    cases v <;> simp only [valueConstants, constantName, enumClass, error_of_borrows,
      first.child.borrows, second.child.borrows, field, shape, suffix]
  rw [singleConstants_of_borrows first.child.borrows,
    singleConstants_of_borrows second.child.borrows, first.rules_eq second, field]
  simp only [values]

theorem typedAt_iff (first : Reached schema p c step d) (second : Reached schema p c other e) :
    TypedAt schema d ↔ TypedAt schema e := by
  have field : d.field = e.field := first.child.field.trans second.child.field.symm
  have shape : d.shape = e.shape := first.child.shape.trans second.child.shape.symm
  simp only [TypedAt, Typed, enumClass, first.rules_eq second, field, shape]

theorem marked (reached : Reached schema p c step e)
    (declared : (constantsPass schema).single e = .ok ks) :
    ∃ ms, Marked { c with suffix := step.suffix } ms ks ∧ ms.Perm (valueMarks p.value?) := by
  obtain ⟨ms, marked, marks⟩ := single_marked declared
  have field : e.field.name = c.field.name := congrArg Field.name reached.child.field
  have value : e.rules.value? = p.value? := by
    rw [p.value?_eq]
    exact value?_of_resolve reached.child.resolved
  rw [reached.child.borrows, value] at marks
  exact ⟨ms, marked.congr field reached.child.suffix, marks.perm_of_borrowed⟩

/-- The errors of a nested position are those of the alternative that the step names. -/
theorem refers (reached : Reached schema p c step e) (outermost : c.Outermost) {i : Nat} {r : α}
    (named : step.errorIndex = some i) (position : p.rules[i]? = some r)
    (declared : (constantsPass schema).single e = .ok ks)
    (written : (statementsPass schema).single e = .ok ss) :
    Refers ss (ruleNames ks) (Raised c i (p.own r)) := by
  obtain ⟨rules, checked⟩ := reached.checked
  refine (single_refers checked declared written).mono fun name spec known => ?_
  rw [Known, reached.child.borrows, if_neg Bool.false_ne_true] at known
  obtain ⟨rfl, lent⟩ := known
  rw [reached.child.inherited, named, outermost.borrowsNone] at lent
  have lent : (Context.alternativeError p.own p.rules (some i) <|> none) = some spec := lent
  constructor
  · rw [errorName, reached.child.borrows, if_neg Bool.false_ne_true, reached.child.field,
      reached.child.errorIndex, named, errorName, if_pos outermost.owns, outermost.plain,
      String.append_empty]
    rfl
  · rw [outermost.error_eq]
    simpa [Context.alternativeError, position] using lent

theorem undeclared (reached : Reached schema p c step e) (silent : p.declared = none) :
    (constantsPass schema).single e = .ok [] ∧
      ∀ ss, (statementsPass schema).single e = .ok ss → operandsAll ss = [] := by
  have child := reached.child
  rw [silent] at child
  obtain ⟨rules, message⟩ := child.undeclared
  constructor
  · rw [singleConstants_of_borrows child.borrows]
    rcases rules with rules | rules <;> rw [rules]
  · intro ss written
    rcases rules with rules | rules
    · have written : messageStatements e none = .ok ss := by
        rw [Pass.single, rules] at written
        exact written
      rw [messageStatements, message] at written
      cases written
      show operandsAll (if _ then _ else _) = []
      split <;> rfl
    · rw [Pass.single, rules] at written
      cases written
      rfl

end Reached

variable {items : List Constant} {inside : List Statement}

theorem held_refers (accepted : p.Accepted schema c) (outermost : c.Outermost)
    (declared : writeNested (constantsPass schema) p c other = .ok items) {i : Nat} {r : α}
    (position : p.rules[i]? = some r)
    (written : (if (p.held? r).isSome then writeNested (statementsPass schema) p c step
      else pure []) = .ok inside)
    (unnamed : other.errorIndex = none) (named : step.errorIndex = some i)
    (suffix : other.suffix = step.suffix) :
    Refers inside (if (p.held? r).isSome then ruleNames items else []) (Raised c i (p.own r)) := by
  split at written
  · rename_i held
    have bound : i < p.rules.length := (List.getElem?_eq_some_iff.mp position).1
    obtain ⟨d, first⟩ := reached_of_accepted accepted (.of_none unnamed p.rules.length)
    obtain ⟨e, second⟩ := reached_of_accepted accepted (.of_some named bound)
    rw [first.written, first.constants_eq second suffix] at declared
    rw [second.written] at written
    rw [if_pos held]
    exact second.refers outermost named position declared written
  · rename_i bare
    cases written
    rw [if_neg bare]
    exact .nil

theorem embedded_idle (accepted : p.Accepted schema c) (unnamed : step.errorIndex = none)
    {condition : Bool} (written : (if p.rules.all (fun r => (p.held? r).isNone) && condition then
      writeNested (statementsPass schema) p c step else pure []) = .ok inside) :
    operandsAll inside = [] := by
  split at written
  · rename_i bare
    have silent : p.declared = none := by
      refine Context.lastDeclaring?_eq_none_iff.mpr fun r member => ?_
      exact Option.isNone_iff_eq_none.mp
        (List.all_eq_true.mp (Bool.and_eq_true_iff.mp bare).1 r member)
    obtain ⟨e, reached⟩ := reached_of_accepted accepted (.of_none unnamed p.rules.length)
    rw [reached.written] at written
    exact (reached.undeclared silent).2 _ written
  · cases written
    rfl

theorem mem_heldNames_iff (accepted : p.Accepted schema c)
    (declared : writeNested (constantsPass schema) p c step = .ok items)
    (unnamed : step.errorIndex = none) (name : String) :
    name ∈ (p.rules.zipIdx.flatMap fun (r, _) =>
        if (p.held? r).isSome then ruleNames items else []) ↔ name ∈ ruleNames items := by
  constructor
  · intro member
    obtain ⟨⟨r, i⟩, _, member⟩ := List.mem_flatMap.mp member
    dsimp only at member
    split at member
    · exact member
    · cases member
  · intro member
    have held : p.declared ≠ none := by
      intro silent
      obtain ⟨e, reached⟩ := reached_of_accepted accepted (.of_none unnamed p.rules.length)
      rw [reached.written, (reached.undeclared silent).1] at declared
      cases declared
      cases member
    obtain ⟨⟨i, inner⟩, found⟩ := Option.ne_none_iff_exists'.mp held
    obtain ⟨r, position, holds⟩ := Context.lastDeclaring?_eq_some found
    refine List.mem_flatMap.mpr ⟨(r, i), List.mk_mem_zipIdx_iff_getElem?.mpr position, ?_⟩
    dsimp only
    rw [holds]
    exact member

theorem nested_marked (accepted : p.Accepted schema c) (unnamed : step.errorIndex = none)
    (declared : writeNested (constantsPass schema) p c step = .ok items) :
    ∃ ms, Marked { c with suffix := step.suffix } ms items ∧ ms.Perm (valueMarks p.value?) := by
  obtain ⟨e, reached⟩ := reached_of_accepted accepted (.of_none unnamed p.rules.length)
  rw [reached.written] at declared
  exact reached.marked declared

/-- The class of an enum at nested positions is found or not, whichever step leads there; one pass
needs it just where the other does. -/
theorem exists_nestedTyped (accepted : p.Accepted schema c) : ∃ typed : Prop,
    (p.declared = none → typed) ∧ ∀ step : Context.Step, step.Within p.rules.length →
      ((∃ ks, writeNested (constantsPass schema) p c step = .ok ks) ↔ typed) ∧
      ((∃ ss, writeNested (statementsPass schema) p c step = .ok ss) ↔ typed) := by
  let anywhere : Context.Step := ⟨"", "", none⟩
  have within : anywhere.Within p.rules.length := .of_none rfl _
  obtain ⟨d, first⟩ := reached_of_accepted accepted within
  refine ⟨TypedAt schema d, fun silent => ?_, fun step within => ?_⟩
  · exact (singleConstants_isOk_iff first.values).mp ⟨[], (first.undeclared silent).1⟩
  · obtain ⟨e, second⟩ := reached_of_accepted accepted within
    obtain ⟨rules, checked⟩ := second.checked
    rw [second.written, second.written, first.typedAt_iff second]
    exact ⟨singleConstants_isOk_iff second.values,
      singleStatements_isOk_iff checked second.values⟩

theorem of_held {fact : Prop} (silent : p.declared = none → fact)
    (held : ∀ (r : α) (i : Nat), p.rules[i]? = some r → (p.held? r).isSome = true → fact) :
    fact := by
  cases found : p.declared with
  | none => exact silent found
  | some declared =>
      obtain ⟨r, position, holds⟩ := Context.lastDeclaring?_eq_some found
      exact held r declared.1 position (by rw [holds]; rfl)

end Nested

end ProtoRules.Java
