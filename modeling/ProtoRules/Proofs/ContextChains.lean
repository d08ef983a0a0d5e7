import Mathlib.Data.List.Induction
import ProtoRules.Proofs.CheckedContexts
import ProtoRules.Proofs.KindFit

/-!
Chains of contexts. From the context of a field one step may lead into a collection and one more
to the value inside a wrapper, whatever rule sets are nested in each other; so what walks along
contexts comes to an end.
-/

namespace ProtoRules

namespace Context

/-- A way to derive a context from another one. -/
inductive Derivation
  | key (step : Step)
  | element (step : Step)
  | unwrap (accessor : String)
deriving DecidableEq, Repr

/-- Whether the derived context is that of a position inside a collection. -/
def Derivation.enters : Derivation → Bool
  | unwrap _ => false
  | _ => true

def derive (c : Context) : Derivation → Except ProjectionError Context
  | .key step => c.key step
  | .element step => c.element step
  | .unwrap accessor => c.unwrap accessor

def deriveAll (c : Context) (steps : List Derivation) : Except ProjectionError Context :=
  steps.foldlM derive c

variable {c e root : Context} {steps : List Derivation} {d : Derivation}

/-- Whether the rules are of a kind that the position takes. -/
def Fits (c : Context) : Prop :=
  match c.rules with
  | .typed t => c.shape.accepts t.kind = true
  | .wrapper v => c.shape.Wraps v.kind
  | _ => True

private theorem fits_of_default {message : Option MessageRules}
    (written : c.rules = c.shape.defaultRules message) : c.Fits := by
  rcases defaultRules_cases c.shape message with
    ⟨_, shape, made⟩ | ⟨_, _, shape, made | made⟩ | ⟨_, shape, made | made⟩
  · simp only [Fits, written, made]
    rw [shape]
    rfl
  · simp only [Fits, written, made]
    rw [shape]
    rfl
  · simp only [Fits, written, made]
  · simp only [Fits, written, made]
  · simp only [Fits, written, made]

private theorem fits_of_resolve {field : String} {rules : FieldRules}
    (resolved : resolve field c.shape rules = .ok (c.rules, c.messageRules)) : c.Fits := by
  cases declared : rules.typed with
  | none =>
      rw [resolve, declared] at resolved
      exact fits_of_default (Prod.mk.inj (Except.ok.inj resolved)).1.symm
  | some t =>
      rcases resolve_cases field c.shape declared with
        ⟨wraps, v, rfl, read⟩ | ⟨_, accepts, read⟩ | ⟨_, refused⟩
      · obtain ⟨same, _⟩ := Prod.mk.inj (Except.ok.inj (read.symm.trans resolved))
        rw [Fits, ← same]
        exact wraps
      · obtain ⟨same, _⟩ := Prod.mk.inj (Except.ok.inj (read.symm.trans resolved))
        rw [Fits, ← same]
        exact accepts
      · cases refused.symm.trans resolved

/-- A position that single values do not have is entered from a collection only. -/
private theorem entering_of_child (part : Shape → Option ElementType)
    (absent : ∀ p, part (.single p) = none) {t : TypedRules FieldRules} {step : Step}
    {position : ElementType} {declared : Option FieldRules} {lent : Option ErrorSpec}
    (written : c.rules = .typed t) (inside : part c.shape = some position)
    (nests : ∀ v, t ≠ .value v) (derived : c.child step position declared lent = .ok e) :
    (∀ p, c.shape ≠ .single p) ∧ (∀ v, c.rules ≠ .typed (.value v)) ∧
      ∃ step position declared lent, c.ChildOf step position declared lent e := by
  refine ⟨fun p single => ?_, fun v value => ?_, step, position, _, _, childOf_of_child derived⟩
  · rw [single, absent] at inside
    cases inside
  · cases written.symm.trans value
    exact nests v rfl

/-- Only a context whose shape and rules are those of a collection leads into one. -/
theorem derive_entering (enters : d.enters = true) (derived : c.derive d = .ok e) :
    (∀ position, c.shape ≠ .single position) ∧ (∀ v, c.rules ≠ .typed (.value v)) ∧
      ∃ step position declared lent, c.ChildOf step position declared lent e := by
  cases d with
  | unwrap accessor => cases enters
  | key step =>
      simp only [derive, key] at derived
      split at derived
      · rename_i rules position written inside
        exact entering_of_child Shape.key? (fun _ => rfl) written inside
          (fun _ same => by cases same) derived
      · cases derived
  | element step =>
      simp only [derive, element] at derived
      split at derived
      · rename_i rules position written inside
        exact entering_of_child Shape.element? (fun _ => rfl) written inside
          (fun _ same => by cases same) derived
      · rename_i rules position written inside
        exact entering_of_child Shape.element? (fun _ => rfl) written inside
          (fun _ same => by cases same) derived
      · cases derived

theorem derive_unwrapping {accessor : String} (derived : c.derive (.unwrap accessor) = .ok e) :
    ∃ v, c.rules = .wrapper v ∧
      e = { c with rules := .typed (.value v), accessor := some accessor } := by
  simp only [derive, unwrap] at derived
  split at derived
  · rename_i v written
    cases derived
    exact ⟨v, written, rfl⟩
  · cases derived

/-- At most one step into a collection and then at most one to a wrapped value. -/
def Ordered (steps : List Derivation) : Prop :=
  ∃ (entry : Option Derivation) (accessor : Option String),
    steps = entry.toList ++ (accessor.map .unwrap).toList ∧ ∀ d ∈ entry, d.enters = true

theorem Ordered.length_le_two (ordered : Ordered steps) : steps.length ≤ 2 := by
  obtain ⟨entry, accessor, rfl, _⟩ := ordered
  cases entry <;> cases accessor <;> simp

private theorem Ordered.entries_of_getLast? (ordered : Ordered steps)
    (entered : ∀ accessor, steps.getLast? ≠ some (.unwrap accessor)) :
    ∀ d ∈ steps, d.enters = true := by
  obtain ⟨entry, accessor, rfl, valid⟩ := ordered
  cases accessor with
  | none => simpa using valid
  | some accessor => exact absurd List.getLast?_concat (entered accessor)

/-- What is known of the context at the end of a chain. A step into a collection leaves a single
position and a step to a wrapped value leaves its rules; either rules out what has to come before.
-/
structure Reaches (root : Context) (steps : List Derivation) (c : Context) : Prop where
  ordered : Ordered steps
  field : c.field = root.field
  errorBase : c.errorBase = root.errorBase
  borrows : c.ownsErrors = false ↔ ∃ d ∈ steps, d.enters = true
  single : (∃ d ∈ steps, d.enters = true) → ∃ element, c.shape = .single element
  unwrapped : (∃ d ∈ steps, d.enters = false) → ∃ v, c.rules = .typed (.value v)
  fits : (∀ d ∈ steps, d.enters = true) → c.Fits

namespace Reaches

theorem enter (reaches : Reaches root steps c) (enters : d.enters = true)
    (derived : c.derive d = .ok e) : Reaches root (steps ++ [d]) e := by
  obtain ⟨collection, held, step, position, declared, lent, child⟩ :=
    derive_entering enters derived
  -- Either kind of earlier step leaves nothing behind that leads into a collection.
  have first : steps = [] := by
    refine List.eq_nil_iff_forall_not_mem.mpr fun earlier member => ?_
    cases into : earlier.enters with
    | true =>
        obtain ⟨element, single⟩ := reaches.single ⟨earlier, member, into⟩
        exact collection element single
    | false =>
        obtain ⟨v, value⟩ := reaches.unwrapped ⟨earlier, member, into⟩
        exact held v value
  subst first
  have entered : ∃ other ∈ [] ++ [d], other.enters = true := ⟨d, List.mem_singleton_self d, enters⟩
  refine ⟨⟨some d, none, rfl, ?_⟩, child.field.trans reaches.field,
    child.errorBase.trans reaches.errorBase, iff_of_true child.borrows entered,
    fun _ => ⟨position, child.shape⟩, ?_, fun _ => fits_of_resolve (child.shape ▸ child.resolved)⟩
  · intro other member
    rwa [← Option.mem_some_iff.mp member]
  · rintro ⟨other, member, outside⟩
    rw [List.mem_singleton.mp member, enters] at outside
    cases outside

theorem unwrap {accessor : String} (reaches : Reaches root steps c)
    (derived : c.derive (.unwrap accessor) = .ok e) :
    Reaches root (steps ++ [.unwrap accessor]) e := by
  obtain ⟨v, wrapper, rfl⟩ := derive_unwrapping derived
  have entries : ∀ d ∈ steps, d.enters = true := by
    intro d member
    cases into : d.enters with
    | true => rfl
    | false =>
        obtain ⟨v', value⟩ := reaches.unwrapped ⟨d, member, into⟩
        cases wrapper.symm.trans value
  have last : ∃ d ∈ steps ++ [Derivation.unwrap accessor], d.enters = false :=
    ⟨.unwrap accessor, List.mem_append_right steps (List.mem_singleton_self _), rfl⟩
  have entered : (∃ d ∈ steps ++ [Derivation.unwrap accessor], d.enters = true) ↔
      ∃ d ∈ steps, d.enters = true := by
    simp [or_and_right, exists_or, Derivation.enters]
  refine ⟨?_, reaches.field, reaches.errorBase, reaches.borrows.trans entered.symm,
    fun inside => reaches.single (entered.mp inside), fun _ => ⟨v, rfl⟩, fun all => ?_⟩
  · obtain ⟨entry, earlier, rfl, valid⟩ := reaches.ordered
    cases earlier with
    | none => exact ⟨entry, some accessor, by simp, valid⟩
    | some other => cases entries (.unwrap other) (by simp)
  · obtain ⟨d, member, outside⟩ := last
    cases outside.symm.trans (all d member)

theorem step (reaches : Reaches root steps c) (derived : c.derive d = .ok e) :
    Reaches root (steps ++ [d]) e := by
  cases d with
  | key step => exact reaches.enter rfl derived
  | element step => exact reaches.enter rfl derived
  | unwrap accessor => exact reaches.unwrap derived

end Reaches

private theorem reaches_of_deriveAll (owns : root.ownsErrors = true) (fits : root.Fits)
    (derived : root.deriveAll steps = .ok c) : Reaches root steps c := by
  -- From the end of the chain: a step is taken from where the ones before it lead.
  induction steps using List.reverseRecOn generalizing c with
  | nil =>
      cases derived
      refine ⟨⟨none, none, rfl, by simp⟩, rfl, rfl, ?_, by simp, by simp, fun _ => fits⟩
      simp [owns]
  | append_singleton steps d ih =>
      rw [deriveAll, List.foldlM_append, bind_eq_ok_iff] at derived
      obtain ⟨middle, earlier, last⟩ := derived
      rw [List.foldlM_cons, bind_eq_ok_iff] at last
      obtain ⟨e, derived, rest⟩ := last
      cases rest
      exact (ih earlier).step derived

private theorem root_of_ofField {message : Message} {field : Field}
    (written : ofField message field = .ok root) : root.ownsErrors = true ∧ root.Fits := by
  refine ⟨(outermost_of_ofField written).1.owns, ?_⟩
  simp only [ofField, bind_eq_ok_iff, pure_eq_ok_iff] at written
  obtain ⟨base, _, declared, _, ⟨rules, messageRules⟩, resolved, rfl⟩ := written
  exact fits_of_resolve resolved

/-- However contexts are derived from that of a field, there are at most two steps: one into a
collection, which gives up errors of its own, and after it one to a wrapped value. Up to that the
rules are of a kind that the position takes. -/
theorem derived_contexts_bounded {message : Message} {field : Field} {root c : Context}
    {steps : List Derivation} (written : ofField message field = .ok root)
    (derived : root.deriveAll steps = .ok c) :
    steps.length ≤ 2 ∧ Ordered steps ∧ c.field = root.field ∧ c.errorBase = root.errorBase ∧
      (c.ownsErrors = false ↔ ∃ d ∈ steps, d.enters = true) ∧
      ((∀ accessor, steps.getLast? ≠ some (.unwrap accessor)) →
        (∀ t, c.rules = .typed t → c.shape.accepts t.kind = true) ∧
        ∀ v, c.rules = .wrapper v → c.shape.Wraps v.kind) := by
  obtain ⟨owns, fits⟩ := root_of_ofField written
  have reaches := reaches_of_deriveAll owns fits derived
  refine ⟨reaches.ordered.length_le_two, reaches.ordered, reaches.field, reaches.errorBase,
    reaches.borrows, fun entered => ?_⟩
  have fits := reaches.fits (reaches.ordered.entries_of_getLast? entered)
  rw [Fits] at fits
  refine ⟨fun t typed => ?_, fun v wrapper => ?_⟩
  · rwa [typed] at fits
  · rwa [wrapper] at fits

/-- A map from names to prices that may be missing. -/
def prices : Field where
  name := "prices"
  shape := .map (.scalar .string) (.message ".google.protobuf.Int64Value")
  extensions := Extensions.insert {} rulesKey (.obj [("map", .obj [("rules", .arr [
    .obj [("min_pairs", .int 1), ("error", .obj [("method", .str "empty")])],
    .obj [("values", .obj [("int64", .obj [("rules", .arr [.obj [("gt", .int 0)]])])]),
      ("error", .obj [("method", .str "badPrice")])]])])])

def shop : Message where
  name := "Shop"
  fields := [prices]
  extensions := Extensions.insert {} Extensions.errorBaseKey (.obj [("class", .str "acme.Errors")])

theorem prices_value_unwrapped :
    ∃ root c, ofField shop prices = .ok root ∧
      root.deriveAll [.element ⟨"value", "Value", some 1⟩, .unwrap "inner"] = .ok c ∧
      c.tag = .kind (.numeric .int64) ∧ c.field = root.field ∧ c.errorBase = root.errorBase ∧
      c.ownsErrors = false := by
  obtain ⟨root, written⟩ : ∃ root, ofField shop prices = .ok root := ⟨_, rfl⟩
  have derivable : ∃ c, root.deriveAll [.element ⟨"value", "Value", some 1⟩, .unwrap "inner"] =
      .ok c ∧ c.tag = .kind (.numeric .int64) := by
    cases written
    exact ⟨_, rfl, rfl⟩
  obtain ⟨c, derived, tag⟩ := derivable
  obtain ⟨_, _, field, errorBase, borrows, _⟩ := derived_contexts_bounded written derived
  exact ⟨root, c, written, derived, tag, field, errorBase,
    borrows.mpr ⟨_, List.mem_cons_self, rfl⟩⟩

end Context

end ProtoRules
