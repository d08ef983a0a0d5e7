import ProtoRules.Plugin.Language
import ProtoRules.Proofs.CheckedContexts

/-!
Faults of passes. A pass over the context of accepted rules never comes upon a position that it
cannot reach, so the faults it can end in are those of its own five ways of writing.
-/

namespace ProtoRules

inductive WriteFault : Language → RenderError → Prop
  | unknownEnum (l : Language) (name : String) : WriteFault l (.schema (.unknownEnum name))
  | unknownMessage (l : Language) (name : String) : WriteFault l (.schema (.unknownMessage name))
  | invalidPath (path : String) : WriteFault .rust (.invalidPath path)
  | badIdentifier (name : String) : WriteFault .rust (.badIdentifier name)

theorem enumeration_faultsWithin (l : Language) (schema : Schema) (name : String) :
    FaultsWithin (WriteFault l) (SchemaError.render (schema.enumeration name)) := by
  unfold Schema.enumeration
  split
  · exact .ok _
  · exact .error (.unknownEnum l name)

namespace Pass

variable {α : Type} {p : Pass α} {P : RenderError → Prop} {schema : Schema} {c : Context}
  {declared : FieldRules}

/-- Every way of writing ends in certain faults only, provided that there are errors to raise and
that the positions inside are written so. -/
structure Confined (p : Pass α) (P : RenderError → Prop) : Prop where
  message : ∀ (c : Context) (rules : Option MessageRules),
    c.AcceptsMissing (rules <|> c.messageRules) → FaultsWithin P (p.message c rules)
  value : ∀ (c : Context) (v : ValueRules), c.Accepts v → FaultsWithin P (p.value c v)
  wrapper : ∀ (inner : String → Rendered (List α)) (c : Context),
    c.AcceptsMissing c.messageRules → (∀ accessor, FaultsWithin P (inner accessor)) →
      FaultsWithin P (p.wrapper inner c)
  repeated : ∀ (elements : Context.Step → Rendered (List α)) (c : Context)
    (rules : List (RepeatedRule FieldRules)), (∀ r ∈ rules, c.Raises r.error) →
      (∀ step : Context.Step, step.Within rules.length → FaultsWithin P (elements step)) →
        FaultsWithin P (p.repeated elements c rules)
  map : ∀ (keys elements : Context.Step → Rendered (List α)) (c : Context)
    (rules : List (MapRule FieldRules)), (∀ r ∈ rules, c.Raises r.error) →
      (∀ step : Context.Step, step.Within rules.length → FaultsWithin P (keys step)) →
        (∀ step : Context.Step, step.Within rules.length → FaultsWithin P (elements step)) →
          FaultsWithin P (p.map keys elements c rules)

theorem inside_faultsWithin {β : Type} {count : Nat} {write : Context.Step → Rendered (List α)}
    {held : Prop} [Decidable held] {step : Context.Step} {next : List α → Rendered β}
    (inside : ∀ step : Context.Step, step.Within count → FaultsWithin P (write step))
    (within : step.Within count) (rest : ∀ parts, FaultsWithin P (next parts)) :
    FaultsWithin P (if held then write step >>= next else pure [] >>= next) :=
  .ite (fun _ => .bind (inside step within) fun parts _ => rest parts) fun _ => rest []

theorem inner_eq {v : ValueRules} (written : c.rules = .wrapper v) (accessor : String) :
    p.inner c v accessor =
      p.value { c with rules := .typed (.value v), accessor := some accessor } v := by
  rw [Pass.inner, Context.unwrap, written]
  rfl

namespace Confined

theorem inner (confined : p.Confined P) {v : ValueRules} (written : c.rules = .wrapper v)
    (accepts : c.Accepts v) (accessor : String) : FaultsWithin P (p.inner c v accessor) := by
  rw [inner_eq written]
  exact confined.value _ v ⟨accepts.raises, accepts.literals⟩

theorem single (confined : p.Confined P) (checked : c.Checked schema declared)
    (values : ∀ t, c.rules = .typed t → ∃ v, t = .value v) : FaultsWithin P (p.single c) := by
  unfold Pass.single
  split
  · exact .ok []
  · rename_i rules written
    have same : (rules <|> c.messageRules) = c.messageRules := by
      rw [checked.message_eq written]
      cases c.messageRules <;> rfl
    apply confined.message
    rw [same]
    exact checked.acceptsMissing
  · rename_i v written
    exact confined.value c v (checked.accepts (.inl written))
  · rename_i t notValue written
    obtain ⟨v, rfl⟩ := values t written
    exact absurd rfl (notValue v)
  · rename_i v written
    exact confined.wrapper _ c checked.acceptsMissing
      (confined.inner written (checked.accepts (.inr written)))

theorem nested (confined : p.Confined P) {β : Type} {inside : Context.Nested β}
    (accepted : inside.Accepted schema c) {step : Context.Step}
    (within : step.Within inside.rules.length) :
    FaultsWithin P (ProjectionError.render (inside.context c step) >>= p.single) := by
  obtain ⟨e, reached, checked, shape⟩ := accepted.context_eq_ok within
  rw [reached]
  exact confined.single checked (checked.value_of_single shape)

theorem render (confined : p.Confined P) (checked : c.Checked schema declared) :
    FaultsWithin P (p.render c) := by
  unfold Pass.render
  split
  · rename_i rules written
    refine confined.repeated _ c rules (checked.repeated_raises written) fun step within => ?_
    obtain ⟨element, accepted, reached⟩ := checked.items written
    rw [reached]
    exact confined.nested accepted within
  · rename_i rules written
    refine confined.map _ _ c rules (checked.map_raises written) ?_ ?_
    · intro step within
      obtain ⟨element, accepted, reached⟩ := checked.keys written
      rw [reached]
      exact confined.nested accepted within
    · intro step within
      obtain ⟨element, accepted, reached⟩ := checked.values written
      rw [reached]
      exact confined.nested accepted within
  · rename_i notList notMap
    refine confined.single checked fun t written => ?_
    cases t with
    | value v => exact ⟨v, rfl⟩
    | repeated rules => exact absurd written (notList rules)
    | map rules => exact absurd written (notMap rules)

end Confined

end Pass

end ProtoRules
