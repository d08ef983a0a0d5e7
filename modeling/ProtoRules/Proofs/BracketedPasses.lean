import ProtoRules.Emit.JavaConstants
import ProtoRules.Proofs.BracketedStatements
import ProtoRules.Proofs.EarlyReturns
import ProtoRules.Proofs.PlainNames

/-!
Brackets of what passes write. Where the names of a message are plain, every context of it has plain
names and an accessor that leaves no bracket open, and so have the contexts of keys, elements and
wrapped values. A pass yields items of a kind if each of its five ways of writing does.
-/

namespace ProtoRules

open Java (Plain Balanced Turns)

/-- Everything that an outcome can succeed with satisfies the predicate. -/
def Gives {ε α : Type} (P : α → Prop) (x : Except ε α) : Prop :=
  ∀ a, x = .ok a → P a

/-- A list of members that satisfy the predicate, if the outcome is a success. -/
abbrev GivesAll {ε α : Type} (P : α → Prop) (x : Except ε (List α)) : Prop :=
  Gives (fun as => ∀ a ∈ as, P a) x

namespace Gives

variable {ε α β : Type} {P : α → Prop} {Q : β → Prop}

theorem ok {a : α} (holds : P a) : Gives P (.ok a : Except ε α) := by
  intro b same
  cases same
  exact holds

theorem error (e : ε) : Gives P (.error e : Except ε α) := by
  intro b same
  cases same

theorem bind {x : Except ε α} {f : α → Except ε β} (next : ∀ a, x = .ok a → Gives Q (f a)) :
    Gives Q (x >>= f) := by
  cases x with
  | error e => exact error e
  | ok a => exact next a rfl

theorem ite {condition : Prop} [Decidable condition] {x y : Except ε α}
    (yes : condition → Gives P x) (no : ¬ condition → Gives P y) :
    Gives P (if condition then x else y) := by
  split
  · exact yes ‹_›
  · exact no ‹_›

theorem nil : GivesAll P (.ok [] : Except ε (List α)) :=
  ok fun _ member => absurd member List.not_mem_nil

theorem concat {P : List β → Prop} {f : α → Rendered (List β)} {xs : List α} (empty : P [])
    (append : ∀ {as bs}, P as → P bs → P (as ++ bs)) (each : ∀ x ∈ xs, Gives P (f x)) :
    Gives P (ProtoRules.concatM f xs) := by
  induction xs with
  | nil => exact ok empty
  | cons x xs ih =>
      obtain ⟨first, rest⟩ := List.forall_mem_cons.mp each
      refine bind fun front written => bind fun later added => ok ?_
      exact append (first front written) (ih rest later added)

theorem concatM {f : α → Rendered (List β)} {xs : List α} (each : ∀ x ∈ xs, GivesAll Q (f x)) :
    GivesAll Q (concatM f xs) :=
  concat (fun _ member => absurd member List.not_mem_nil)
    (fun first rest => List.forall_mem_append.mpr ⟨first, rest⟩) each

end Gives

def ContextRules.errors : ContextRules → List (Option ErrorSpec)
  | .message rules => [rules.bind MessageRules.error]
  | .none => []
  | .typed t => t.errors
  | .wrapper v => v.errors

namespace Context

variable {c e : Context} {step : Step}

/-- A context with plain names, whose own errors are made by plain methods. -/
structure Tidy (c : Context) : Prop where
  field : Plain c.field.name
  suffix : Plain c.suffix
  accessor : ∀ a ∈ c.accessor, Balanced a
  owner : ∀ base ∈ c.errorBase, Plain base.owner
  errors : c.ownsErrors = true → ∀ spec,
    some spec ∈ c.rules.errors ++ [c.messageRules.bind MessageRules.error] → Plain spec.method

structure Step.Tidy (step : Step) : Prop where
  accessor : Balanced step.accessor
  suffix : Plain step.suffix

private theorem mem_errors_of_resolve {field : String} {shape : Shape} {rules : FieldRules}
    {resolved : ContextRules × Option MessageRules}
    (read : resolve field shape rules = .ok resolved)
    {spec : ErrorSpec}
    (member : some spec ∈ resolved.1.errors ++ [resolved.2.bind MessageRules.error]) :
    some spec ∈ rules.errors := by
  obtain ⟨message, typed⟩ := resolve_eq_ok read
  rw [FieldRules.errors, ← message]
  rcases List.mem_append.mp member with own | own
  · rcases typed with ⟨_, default⟩ | ⟨t, typed, same⟩ | ⟨v, typed, same⟩
    · -- Of the defaults only those of an embedded message hold an error, that of the message rules.
      rw [default] at own
      rcases defaultRules_cases shape rules.message with
        ⟨_, _, made⟩ | ⟨_, _, _, made | made⟩ | ⟨_, _, made | made⟩
      · rw [made] at own
        cases own
      · rw [made] at own
        cases own
      · rw [made] at own
        cases own
      · rw [made, ← message] at own
        exact List.mem_append_right _ own
      · rw [made] at own
        cases own
    · rw [same] at own
      rw [typed]
      exact List.mem_append_left _ own
    · rw [same] at own
      rw [typed]
      exact List.mem_append_left _ own
  · exact List.mem_append_right _ own

theorem tidy_of_ofField {message : Message} {field : Field} (names : message.PlainNames)
    (member : field ∈ message.fields) (projected : ofField message field = .ok c) : c.Tidy := by
  simp only [ofField, bind_eq_ok_iff, pure_eq_ok_iff, SchemaError.project_eq_ok_iff] at projected
  obtain ⟨base, readable, declared, read, resolved, resolves, rfl⟩ := projected
  have empty : Plain "" := by decide
  refine ⟨names.fields field member, empty, ?_, ?_, fun _ spec written => ?_⟩
  · intro accessor given
    cases given
  · intro base given
    exact names.owner base (given ▸ readable)
  · have written := mem_errors_of_resolve resolves written
    cases declared with
    | none => cases List.mem_singleton.mp written
    | some rules => exact names.errors field member rules read spec written

theorem Tidy.unwrap (tidy : c.Tidy) {name : String} (balanced : Balanced name)
    (led : c.unwrap name = .ok e) : e.Tidy := by
  obtain ⟨v, wraps, rfl⟩ := derive_unwrapping led
  refine ⟨tidy.field, tidy.suffix, ?_, tidy.owner, fun owns spec written => ?_⟩
  · intro other given
    exact Option.some.inj given ▸ balanced
  · refine tidy.errors owns spec ?_
    rw [wraps]
    exact written

private theorem Tidy.of_childOf (tidy : c.Tidy) (inside : step.Tidy) {element : ElementType}
    {declared : Option FieldRules} {lent : Option ErrorSpec}
    (child : c.ChildOf step element declared lent e) (given : e.accessor = some step.accessor) :
    e.Tidy := by
  refine ⟨child.field ▸ tidy.field, child.suffix ▸ inside.suffix, ?_, ?_, ?_⟩
  · intro other same
    rw [given] at same
    exact Option.some.inj same ▸ inside.accessor
  · intro base same
    exact tidy.owner base (child.errorBase ▸ same)
  · intro owns
    rw [child.borrows] at owns
    cases owns

theorem Tidy.key (tidy : c.Tidy) (inside : step.Tidy) (led : c.key step = .ok e) : e.Tidy := by
  have given := Rust.accessor_of_key led
  simp only [Context.key] at led
  split at led
  · exact tidy.of_childOf inside (childOf_of_child led) given
  · cases led

theorem Tidy.element (tidy : c.Tidy) (inside : step.Tidy) (led : c.element step = .ok e) :
    e.Tidy := by
  have given := Rust.accessor_of_element led
  simp only [Context.element] at led
  split at led
  · exact tidy.of_childOf inside (childOf_of_child led) given
  · exact tidy.of_childOf inside (childOf_of_child led) given
  · cases led

end Context

namespace Java

variable {c : Context}

private theorem plain_nat (n : Nat) : Plain (toString n) :=
  plain_toString (Int.ofNat n)

private theorem plain_position (alternative : Nat) : Plain (position alternative) := by
  unfold position
  split
  · decide
  · exact plain_nat alternative

theorem plain_constantName (tidy : c.Tidy) {rule : String} (plain : Plain rule)
    (alternative : Nat) : Plain (constantName c rule alternative) := by
  have front := (tidy.field.camel.append tidy.suffix).append (by decide : Plain "__")
  exact (front.append plain).append (plain_position alternative)

theorem plain_errorName (tidy : c.Tidy) (alternative : Nat) : Plain (errorName c alternative) := by
  have mark : Plain "__Error" := by decide
  unfold errorName
  split
  · exact ((tidy.field.camel.append tidy.suffix).append mark).append (plain_nat alternative)
  · exact (tidy.field.camel.append mark).append (plain_nat _)

theorem plain_requiredName (tidy : c.Tidy) : Plain (requiredName c) :=
  (tidy.field.camel.append tidy.suffix).append (by decide)

theorem plain_oneofErrorName {oneof : Oneof} (plain : Plain oneof.name) :
    Plain (oneofErrorName oneof) :=
  plain.camel.append (by decide)

theorem balanced_accessor (tidy : c.Tidy) : Balanced (accessor c) := by
  have front : Plain ("proto.get" ++ Text.pascal c.field.name) :=
    Plain.append (by decide) tidy.field.pascal
  have list : Balanced "List()" := by decide
  have map : Balanced "Map()" := by decide
  have single : Balanced "()" := by decide
  unfold accessor
  split
  · rename_i given
    exact tidy.accessor _ given
  · dsimp only
    split
    · exact front.balanced.append list
    · split
      · exact front.balanced.append map
      · exact front.balanced.append single

theorem balanced_presence (tidy : c.Tidy) : Balanced (presence c) := by
  have front : Plain ("proto.has" ++ Text.pascal c.field.name) :=
    Plain.append (by decide) tidy.field.pascal
  have call : Balanced "()" := by decide
  unfold presence
  split
  · exact (by decide : Balanced "true")
  · exact front.balanced.append call

end Java

namespace Pass

variable {α : Type} {p : Pass α} {P : α → Prop} {c : Context}

/-- Every way of writing yields certain items only, provided that the positions inside do. -/
structure Yields (p : Pass α) (P : α → Prop) : Prop where
  message : ∀ (c : Context) (rules : Option MessageRules), c.Tidy → c.rules = .message rules →
    GivesAll P (p.message c rules)
  value : ∀ (c : Context) (v : ValueRules), c.Tidy → c.rules = .typed (.value v) →
    GivesAll P (p.value c v)
  wrapper : ∀ (inner : String → Rendered (List α)) (c : Context), c.Tidy →
    (∀ accessor, Balanced accessor → GivesAll P (inner accessor)) →
      GivesAll P (p.wrapper inner c)
  repeated : ∀ (elements : Context.Step → Rendered (List α)) (c : Context)
    (rules : List (RepeatedRule FieldRules)), c.Tidy → c.rules = .typed (.repeated rules) →
      (∀ step : Context.Step, step.Tidy → GivesAll P (elements step)) →
        GivesAll P (p.repeated elements c rules)
  map : ∀ (keys elements : Context.Step → Rendered (List α)) (c : Context)
    (rules : List (MapRule FieldRules)), c.Tidy → c.rules = .typed (.map rules) →
      (∀ step : Context.Step, step.Tidy → GivesAll P (keys step)) →
        (∀ step : Context.Step, step.Tidy → GivesAll P (elements step)) →
          GivesAll P (p.map keys elements c rules)

namespace Yields

theorem inner (yields : p.Yields P) (tidy : c.Tidy) {v : ValueRules}
    (written : c.rules = .wrapper v) {accessor : String} (balanced : Balanced accessor) :
    GivesAll P (p.inner c v accessor) := by
  refine .bind fun e led => ?_
  have led := ProjectionError.render_eq_ok_iff.mp led
  have inside := tidy.unwrap balanced led
  obtain ⟨w, wraps, rfl⟩ := Context.derive_unwrapping led
  cases wraps.symm.trans written
  exact yields.value _ v inside rfl

theorem single (yields : p.Yields P) (tidy : c.Tidy) : GivesAll P (p.single c) := by
  unfold Pass.single
  split
  · exact .nil
  · rename_i rules written
    exact yields.message c rules tidy written
  · rename_i v written
    exact yields.value c v tidy written
  · exact .error _
  · rename_i v written
    exact yields.wrapper _ c tidy fun accessor balanced => yields.inner tidy written balanced

/-- What is written for a context, keys and elements included. -/
theorem render (yields : p.Yields P) (tidy : c.Tidy) : GivesAll P (p.render c) := by
  have keys (step : Context.Step) (inside : step.Tidy) :
      GivesAll P (ProjectionError.render (c.key step) >>= p.single) :=
    .bind fun e led =>
      yields.single (tidy.key inside (ProjectionError.render_eq_ok_iff.mp led))
  have elements (step : Context.Step) (inside : step.Tidy) :
      GivesAll P (ProjectionError.render (c.element step) >>= p.single) :=
    .bind fun e led =>
      yields.single (tidy.element inside (ProjectionError.render_eq_ok_iff.mp led))
  unfold Pass.render
  split
  · rename_i rules written
    exact yields.repeated _ c rules tidy written elements
  · rename_i rules written
    exact yields.map _ _ c rules tidy written keys elements
  · exact yields.single tidy

end Yields

end Pass

end ProtoRules
