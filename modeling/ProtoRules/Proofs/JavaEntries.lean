import Mathlib.Data.List.Nodup
import Mathlib.Data.List.Perm.Basic
import ProtoRules.Proofs.CheckedContexts
import ProtoRules.Proofs.JavaMarks

/-!
Entries: what the alternatives of a position have constants for. They are told from the rules alone,
and both the constants and the statements of a position are described by them.
-/

namespace ProtoRules

def TypedRules.value? : TypedRules FieldRules → Option ValueRules
  | .value v => some v
  | _ => none

def FieldRules.value? (rules : FieldRules) : Option ValueRules :=
  rules.typed.bind TypedRules.value?

def ContextRules.typed? : ContextRules → Option (TypedRules FieldRules)
  | .typed t => some t
  | .wrapper v => some (.value v)
  | _ => .none

def ContextRules.value? (rules : ContextRules) : Option ValueRules :=
  rules.typed?.bind TypedRules.value?

/-- A position has the typed rules that are declared for it, or those of an empty collection. -/
theorem typed?_of_resolve {field : String} {shape : Shape} {rules : FieldRules}
    {resolved : ContextRules × Option MessageRules}
    (resolves : Context.resolve field shape rules = .ok resolved) :
    resolved.1.typed? = rules.typed ∨ rules.typed = none ∧
      (resolved.1.typed? = some (.repeated []) ∨ resolved.1.typed? = some (.map [])) := by
  rcases (resolve_eq_ok resolves).2 with ⟨untyped, default⟩ | ⟨t, typed, own⟩ | ⟨v, typed, own⟩
  · rw [untyped, default]
    rcases defaultRules_cases shape rules.message with
      ⟨_, _, made⟩ | ⟨_, _, _, made | made⟩ | ⟨_, _, made | made⟩ <;> rw [made] <;>
        simp [ContextRules.typed?]
  · rw [typed, own]
    exact .inl rfl
  · rw [typed, own]
    exact .inl rfl

theorem value?_of_resolve {field : String} {shape : Shape} {rules : FieldRules}
    {resolved : ContextRules × Option MessageRules}
    (resolves : Context.resolve field shape rules = .ok resolved) :
    resolved.1.value? = rules.value? := by
  rw [ContextRules.value?, FieldRules.value?]
  rcases typed?_of_resolve resolves with own | ⟨untyped, list | map⟩
  · rw [own]
  · rw [untyped, list]
    rfl
  · rw [untyped, map]
    rfl

namespace Context.Nested

variable {α : Type}

def value? (p : Nested α) : Option ValueRules :=
  p.declared.bind fun (_, rules) => rules.value?

theorem value?_eq (p : Nested α) :
    p.value? = ((p.declared.map Prod.snd).getD {}).value? := by
  rw [value?]
  cases p.declared <;> rfl

end Context.Nested

end ProtoRules

namespace ProtoRules.Java

def declaredLabels {α : Type} (rules : List (String × Option α)) : List String :=
  rules.flatMap fun (label, value) => (value.map fun _ => label).toList

def setLabels {α : Type} (allowed denied : List α) : List String :=
  (if allowed.isEmpty then [] else ["In"]) ++ if denied.isEmpty then [] else ["NotIn"]

def boundLabels {α : Type} (b : Bounds α) : List String :=
  declaredLabels [("Const", b.const)] ++
    declaredLabels [("Lt", b.lt), ("Lte", b.lte), ("Gt", b.gt), ("Gte", b.gte)]

def partLabels (r : BytesRule) : List String :=
  declaredLabels [("Prefix", r.startsWith), ("Contains", r.contains), ("Suffix", r.endsWith)]

structure Entry where
  labels : List String
  error : Option ErrorSpec

def entries : ValueRules → List Entry
  | .any rules => rules.map fun r => ⟨setLabels r.allowed r.denied, r.error⟩
  | .bool r => [⟨[], r.error⟩]
  | .bytes rules => rules.map fun r =>
      ⟨declaredLabels [("Const", r.const)] ++ setLabels r.allowed r.denied ++
        declaredLabels [("Pattern", r.pattern)] ++ partLabels r, r.error⟩
  | .duration rules => rules.map fun r =>
      ⟨boundLabels r.bounds ++ setLabels r.allowed r.denied, r.error⟩
  | .enum rules => rules.map fun r => ⟨setLabels r.allowed r.denied, r.error⟩
  | .numeric _ rules => rules.map fun r =>
      ⟨boundLabels r.bounds ++ setLabels r.allowed r.denied, r.error⟩
  | .string rules => rules.map fun r =>
      ⟨setLabels r.allowed r.denied ++ declaredLabels [("Pattern", r.effectivePattern?)], r.error⟩
  | .timestamp rules => rules.map fun r =>
      ⟨boundLabels r.bounds ++ declaredLabels [("Within", r.within)], r.error⟩

private theorem errors_entries (v : ValueRules) : (entries v).map Entry.error = v.errors := by
  cases v <;> simp [entries, ValueRules.errors]

theorem entry_raises {c : Context} {v : ValueRules} (accepts : c.Accepts v) :
    ∀ e ∈ entries v, c.Raises e.error := by
  intro e member
  apply accepts.raises
  rw [← errors_entries]
  exact List.mem_map_of_mem member

private theorem declaredLabels_sublist {α : Type} (rules : List (String × Option α)) :
    (declaredLabels rules).Sublist (rules.map Prod.fst) := by
  induction rules with
  | nil => exact List.Sublist.slnil
  | cons rule rules ih =>
      obtain ⟨label, _ | value⟩ := rule
      · exact ih.cons label
      · exact ih.cons_cons label

private theorem setLabels_sublist {α : Type} (allowed denied : List α) :
    (setLabels allowed denied).Sublist ["In", "NotIn"] := by
  cases allowed <;> cases denied <;> simp [setLabels]

private theorem boundLabels_sublist {α : Type} (b : Bounds α) :
    (boundLabels b).Sublist ["Const", "Lt", "Lte", "Gt", "Gte"] :=
  (declaredLabels_sublist _).append (declaredLabels_sublist _)

theorem labels_sublist {v : ValueRules} :
    ∀ e ∈ entries v, e.labels.Sublist ruleLabels := by
  cases v with
  | any rules =>
      exact List.forall_mem_map.mpr fun r _ => (setLabels_sublist _ _).trans (by decide)
  | bool r => exact List.forall_mem_singleton.mpr (List.nil_sublist _)
  | bytes rules =>
      refine List.forall_mem_map.mpr fun r _ => ?_
      have constants := (declaredLabels_sublist [("Const", r.const)]).append
        (setLabels_sublist r.allowed r.denied)
      have parts := (declaredLabels_sublist [("Pattern", r.pattern)]).append
        (declaredLabels_sublist
          [("Prefix", r.startsWith), ("Contains", r.contains), ("Suffix", r.endsWith)])
      have fits : List.Sublist
          ["Const", "In", "NotIn", "Pattern", "Prefix", "Contains", "Suffix"] ruleLabels := by
        decide
      rw [List.append_assoc _ (declaredLabels _)]
      exact (constants.append parts).trans fits
  | duration rules =>
      refine List.forall_mem_map.mpr fun r _ => ?_
      exact ((boundLabels_sublist r.bounds).append (setLabels_sublist _ _)).trans (by decide)
  | enum rules =>
      exact List.forall_mem_map.mpr fun r _ => (setLabels_sublist _ _).trans (by decide)
  | numeric k rules =>
      refine List.forall_mem_map.mpr fun r _ => ?_
      exact ((boundLabels_sublist r.bounds).append (setLabels_sublist _ _)).trans (by decide)
  | string rules =>
      refine List.forall_mem_map.mpr fun r _ => ?_
      have fits : List.Sublist ["In", "NotIn", "Pattern"] ruleLabels := by decide
      exact ((setLabels_sublist _ _).append (declaredLabels_sublist _)).trans fits
  | timestamp rules =>
      refine List.forall_mem_map.mpr fun r _ => ?_
      have fits : List.Sublist ["Const", "Lt", "Lte", "Gt", "Gte", "Within"] ruleLabels := by
        decide
      exact ((boundLabels_sublist r.bounds).append (declaredLabels_sublist _)).trans fits

def Entry.names (e : Entry) (c : Context) (alternative : Nat) : List String :=
  e.labels.map (constantName c · alternative)

def entryNames (c : Context) (es : List Entry) : List String :=
  es.zipIdx.flatMap fun (e, i) => e.names c i

theorem entryNames_map {α : Type} (c : Context) (entry : α → Entry) (rules : List α) :
    entryNames c (rules.map entry) = rules.zipIdx.flatMap fun (r, i) => (entry r).names c i := by
  rw [entryNames, List.zipIdx_map, List.flatMap_map]
  rfl

def Entry.marks (e : Entry) (owned : Bool) (alternative : Nat) : List Mark :=
  e.labels.map (Mark.rule · alternative) ++
    if owned then (e.error.map fun _ => Mark.error alternative).toList else []

def entryMarks (owned : Bool) (es : List Entry) : List Mark :=
  es.zipIdx.flatMap fun (e, i) => e.marks owned i

theorem entryMarks_map {α : Type} (owned : Bool) (entry : α → Entry) (rules : List α) :
    entryMarks owned (rules.map entry) =
      rules.zipIdx.flatMap fun (r, i) => (entry r).marks owned i := by
  rw [entryMarks, List.zipIdx_map, List.flatMap_map]
  rfl

def Mark.alternative? : Mark → Option Nat
  | rule _ alternative => some alternative
  | error alternative => some alternative
  | required => none

private theorem alternative_of_mem_marks {e : Entry} {owned : Bool} {i : Nat} {m : Mark}
    (member : m ∈ e.marks owned i) : m.alternative? = some i := by
  rcases List.mem_append.mp member with rule | error
  · obtain ⟨label, _, rfl⟩ := List.mem_map.mp rule
    rfl
  · cases owned with
    | false => cases error
    | true =>
        obtain ⟨_, _, rfl⟩ := Option.map_eq_some_iff.mp (Option.mem_toList.mp error)
        rfl

theorem exists_rule_of_mem_marks {es : List Entry} {m : Mark}
    (member : m ∈ entryMarks false es) : ∃ label alternative, m = .rule label alternative := by
  obtain ⟨⟨e, i⟩, _, member⟩ := List.mem_flatMap.mp member
  have member : m ∈ e.marks false i := member
  rw [Entry.marks, if_neg Bool.false_ne_true, List.append_nil] at member
  obtain ⟨label, _, rfl⟩ := List.mem_map.mp member
  exact ⟨label, i, rfl⟩

theorem exists_errors (owned : Bool) (es : List Entry) : ∃ errors,
    (entryMarks owned es).Perm (entryMarks false es ++ errors) ∧
      (∀ m ∈ errors, m.isError = true) ∧ (owned = false → errors = []) := by
  refine ⟨es.zipIdx.flatMap fun (e, i) =>
    if owned then (e.error.map fun _ => Mark.error i).toList else [], ?_, ?_, ?_⟩
  · have plain : entryMarks false es =
        es.zipIdx.flatMap fun (e, i) => e.labels.map (.rule · i) := by
      simp only [entryMarks, Entry.marks, Bool.false_eq_true, if_false, List.append_nil]
    rw [plain]
    exact (List.flatMap_append_perm _ _ _).symm
  · intro m member
    obtain ⟨⟨e, i⟩, _, member⟩ := List.mem_flatMap.mp member
    dsimp only at member
    split at member
    · obtain ⟨_, _, rfl⟩ := Option.map_eq_some_iff.mp (Option.mem_toList.mp member)
      rfl
    · cases member
  · rintro rfl
    simp

theorem required_notMem_entryMarks {owned : Bool} {es : List Entry} :
    Mark.required ∉ entryMarks owned es := by
  intro member
  obtain ⟨⟨e, i⟩, _, member⟩ := List.mem_flatMap.mp member
  cases alternative_of_mem_marks member

section Labelled

variable {owned : Bool} {es : List Entry} (labelled : ∀ e ∈ es, e.labels.Sublist ruleLabels)

include labelled

theorem proper_of_mem_entryMarks {m : Mark} (member : m ∈ entryMarks owned es) : m.Proper := by
  obtain ⟨⟨e, i⟩, position, member⟩ := List.mem_flatMap.mp member
  have inside : e ∈ es := List.fst_mem_of_mem_zipIdx position
  cases m with
  | rule label alternative =>
      refine (labelled e inside).subset ?_
      rcases List.mem_append.mp member with rule | error
      · obtain ⟨_, label, same⟩ := List.mem_map.mp rule
        cases same
        exact label
      · cases owned with
        | false => cases error
        | true =>
            obtain ⟨_, _, same⟩ := Option.map_eq_some_iff.mp (Option.mem_toList.mp error)
            cases same
  | error alternative => trivial
  | required => trivial

theorem entryMarks_nodup : (entryMarks owned es).Nodup := by
  refine List.nodup_flatMap.mpr ⟨?_, ?_⟩
  · rintro ⟨e, i⟩ position
    have inside : e ∈ es := List.fst_mem_of_mem_zipIdx position
    have labels : e.labels.Nodup := (labelled e inside).nodup (by decide)
    refine List.nodup_append.mpr ⟨?_, ?_, ?_⟩
    · exact labels.map fun _ _ same => (Mark.rule.inj same).1
    · cases owned <;> cases e.error <;> simp
    · intro m rule n error same
      subst same
      obtain ⟨label, _, rfl⟩ := List.mem_map.mp rule
      cases owned <;> cases own : e.error <;> simp [own] at error
  · have apart : (es.zipIdx.map Prod.snd).Nodup := by
      rw [List.zipIdx_map_snd]
      exact List.nodup_range'
    refine (List.pairwise_map.mp apart).imp fun {x y} apart m first second => ?_
    have same := (alternative_of_mem_marks first).symm.trans (alternative_of_mem_marks second)
    exact apart (Option.some.inj same)

end Labelled

/-- The marks of the constants that rules on a value need, errors left out. -/
def ruleMarks (v : ValueRules) : List Mark :=
  entryMarks false (entries v)

def valueMarks (value : Option ValueRules) : List Mark :=
  value.elim [] ruleMarks

theorem exists_rule_of_mem_valueMarks {value : Option ValueRules} {m : Mark}
    (member : m ∈ valueMarks value) : ∃ label alternative, m = .rule label alternative := by
  cases value with
  | none => cases member
  | some v => exact exists_rule_of_mem_marks member

/-- Marks of rules on a value, and besides these only errors; those may be borrowed instead. -/
def MarksOf (owned : Bool) (value : Option ValueRules) (ms : List Mark) : Prop :=
  ∃ errors, ms.Perm (valueMarks value ++ errors) ∧ (∀ m ∈ errors, m.isError = true) ∧
    (owned = false → errors = [])

theorem MarksOf.perm_of_borrowed {value : Option ValueRules} {ms : List Mark}
    (marks : MarksOf false value ms) : ms.Perm (valueMarks value) := by
  obtain ⟨errors, perm, _, borrowed⟩ := marks
  rwa [borrowed rfl, List.append_nil] at perm

end ProtoRules.Java
