import Mathlib.Data.List.Forall2
import Mathlib.Data.List.Nodup
import Mathlib.Data.List.Perm.Basic
import ProtoRules.Proofs.JavaAgreement
import ProtoRules.Proofs.RenderedFields

/-!
Names of the constants of one class. Nothing in a name divides the name of the field from the suffix
of the position, so that constants for the keys or the values of a map can be called like those of
another field. No other names are the same.
-/

namespace ProtoRules

def placedAt (suffix : String) (declared : Option (Nat × FieldRules)) :
    List (String × ValueRules) :=
  ((declared.bind fun (_, rules) => rules.value?).map (suffix, ·)).toList

/-- The rules on values below typed rules, each with the suffix of its position. -/
def TypedRules.placed : TypedRules FieldRules → List (String × ValueRules)
  | .value v => [("", v)]
  | .repeated rules => placedAt "" (lastDeclaring? RepeatedRule.items rules)
  | .map rules => placedAt "Key" (lastDeclaring? MapRule.keys rules) ++
      placedAt "Value" (lastDeclaring? MapRule.values rules)

def FieldRules.placed (rules : FieldRules) : List (String × ValueRules) :=
  (rules.typed.map TypedRules.placed).getD []

def Field.placed (field : Field) : List (String × ValueRules) :=
  match field.rules with
  | .ok (some rules) => rules.placed
  | _ => []

def ContextRules.placed (rules : ContextRules) : List (String × ValueRules) :=
  (rules.typed?.map TypedRules.placed).getD []

private theorem placed_of_resolve {field : String} {shape : Shape} {rules : FieldRules}
    {resolved : ContextRules × Option MessageRules}
    (resolves : Context.resolve field shape rules = .ok resolved) :
    resolved.1.placed = rules.placed := by
  rw [ContextRules.placed, FieldRules.placed]
  rcases typed?_of_resolve resolves with own | ⟨untyped, list | map⟩
  · rw [own]
  · rw [untyped, list]
    rfl
  · rw [untyped, map]
    rfl

private theorem placed_of_ofField {message : Message} {field : Field} {c : Context}
    (written : Context.ofField message field = .ok c) :
    c.field = field ∧ c.rules.placed = field.placed := by
  simp only [Context.ofField, bind_eq_ok_iff, SchemaError.project_eq_ok_iff, pure_eq_ok_iff]
    at written
  obtain ⟨base, _, declared, read, ⟨rules, messageRules⟩, resolved, rfl⟩ := written
  refine ⟨rfl, ?_⟩
  have placed : rules.placed = (declared.getD {}).placed := placed_of_resolve resolved
  rw [placed, Field.placed, read]
  cases declared <;> rfl

private theorem placed_of_values {rules : ContextRules}
    (values : ∀ t, rules = .typed t → ∃ v, t = .value v) :
    rules.placed = (rules.value?.map ("", ·)).toList := by
  cases rules with
  | typed t =>
      obtain ⟨v, rfl⟩ := values t rfl
      rfl
  | _ => rfl

private theorem TypedRules.suffixes_sublist (t : TypedRules FieldRules) :
    (t.placed.map Prod.fst).Sublist ["", "Key", "Value"] := by
  have one (suffix : String) (declared : Option (Nat × FieldRules)) :
      ((placedAt suffix declared).map Prod.fst).Sublist [suffix] := by
    rw [placedAt]
    cases declared.bind fun (_, rules) => rules.value? <;> simp
  cases t with
  | value v => exact List.Sublist.cons_cons "" (List.nil_sublist _)
  | repeated rules =>
      exact (one "" _).trans (List.Sublist.cons_cons "" (List.nil_sublist _))
  | map rules =>
      rw [TypedRules.placed, List.map_append]
      exact ((one "Key" _).append (one "Value" _)).cons ""

private theorem Field.suffixes_sublist (field : Field) :
    (field.placed.map Prod.fst).Sublist ["", "Key", "Value"] := by
  unfold Field.placed FieldRules.placed
  split
  · rename_i rules _
    cases rules.typed with
    | none => exact List.nil_sublist _
    | some t => exact t.suffixes_sublist
  · exact List.nil_sublist _

namespace Java

def ruleOrigins (owner : String) (placed : List (String × ValueRules)) : List Origin :=
  placed.flatMap fun (suffix, v) => (ruleMarks v).map (Origin.mk owner suffix)

private theorem ruleOrigins_append (owner : String) (xs ys : List (String × ValueRules)) :
    ruleOrigins owner (xs ++ ys) = ruleOrigins owner xs ++ ruleOrigins owner ys := by
  rw [ruleOrigins, List.flatMap_append]
  rfl

private theorem ruleOrigins_option (owner suffix : String) (value : Option ValueRules) :
    ruleOrigins owner (value.map (suffix, ·)).toList =
      (valueMarks value).map (Origin.mk owner suffix) := by
  cases value <;> simp [ruleOrigins, valueMarks]

theorem mem_ruleOrigins_iff {owner : String} {placed : List (String × ValueRules)} {o : Origin} :
    o ∈ ruleOrigins owner placed ↔
      o.owner = owner ∧ ∃ v, (o.suffix, v) ∈ placed ∧ o.mark ∈ ruleMarks v := by
  constructor
  · intro member
    obtain ⟨⟨suffix, v⟩, inside, member⟩ := List.mem_flatMap.mp member
    obtain ⟨m, marked, rfl⟩ := List.mem_map.mp member
    exact ⟨rfl, v, inside, marked⟩
  · intro ⟨owned, v, inside, marked⟩
    subst owned
    exact List.mem_flatMap.mpr ⟨_, inside, List.mem_map.mpr ⟨o.mark, marked, rfl⟩⟩

private theorem ruleOrigins_nodup {owner : String} {placed : List (String × ValueRules)}
    (suffixes : (placed.map Prod.fst).Nodup) : (ruleOrigins owner placed).Nodup := by
  apply List.nodup_flatMap.mpr
  constructor
  · intro (suffix, v) _
    apply (entryMarks_nodup labels_sublist).map
    intro m n same
    exact (Origin.mk.inj same).2.2
  · apply (List.pairwise_map.mp suffixes).imp
    intro x y apart o first second
    obtain ⟨m, _, rfl⟩ := List.mem_map.mp first
    obtain ⟨n, _, same⟩ := List.mem_map.mp second
    exact apart (Origin.mk.inj same).2.1.symm

private theorem suffix_cases {a b s t : String} (first : s ∈ ["", "Key", "Value"])
    (second : t ∈ ["", "Key", "Value"]) (same : a ++ s = b ++ t) : s = t ∨ s = "" ∨ t = "" := by
  have last := congrArg (fun text => text.toList.getLast?) same
  simp only [List.mem_cons, List.not_mem_nil, or_false] at first second
  rcases first with rfl | rfl | rfl <;> rcases second with rfl | rfl | rfl <;> simp at last ⊢

namespace Origin

structure Placed (owners : List String) (o : Origin) : Prop where
  owned : o.owner ∈ owners
  suffix : o.suffix ∈ ["", "Key", "Value"]
  proper : o.mark.Proper

private theorem stem_of_plain {o : Origin} (plain : o.suffix = "") :
    o.stem = Text.camel o.owner := by
  rw [stem, plain, String.append_empty]

private theorem eq_of_stem_eq {owners : List String} (apart : (owners.map Text.camel).Nodup)
    {o p : Origin}
    (first : o.Placed owners) (second : p.Placed owners) (suffixes : o.suffix = p.suffix)
    (stems : o.stem = p.stem) (marks : o.mark = p.mark) : o = p := by
  rw [stem, stem, suffixes, String.append_left_inj] at stems
  have owners : o.owner = p.owner := List.inj_on_of_nodup_map apart first.owned second.owned stems
  rw [Origin.mk.injEq]
  exact ⟨owners, suffixes, marks⟩

end Origin

/-- Constants for rules, of certain origins, and errors of certain owners. Only the errors are known
to be there once. -/
structure Inventory (owners : List String) (rules errors : List Origin) (ks : List Constant) :
    Prop where
  names : (ks.map Constant.name).Perm ((rules ++ errors).map Origin.name)
  distinct : errors.Nodup
  raised : ∀ o ∈ errors, o.owner ∈ owners ∧ o.suffix = "" ∧ o.mark.isError = true

namespace Inventory

variable {owners others : List String} {rules rest errors more : List Origin}
  {ks ls : List Constant}

theorem nil (owners : List String) : Inventory owners [] [] [] :=
  ⟨.nil, List.nodup_nil, fun _ member => absurd member List.not_mem_nil⟩

theorem append (first : Inventory owners rules errors ks) (second : Inventory owners rest more ls)
    (apart : errors.Disjoint more) :
    Inventory owners (rules ++ rest) (errors ++ more) (ks ++ ls) where
  names := by
    have order : ((rules ++ errors) ++ (rest ++ more)).Perm
        ((rules ++ rest) ++ (errors ++ more)) := by
      simp only [List.append_assoc]
      exact (List.perm_append_comm_assoc errors rest more).append_left rules
    rw [List.map_append]
    apply (first.names.append second.names).trans
    rw [← List.map_append]
    exact order.map Origin.name
  distinct := first.distinct.append second.distinct apart
  raised := List.forall_mem_append.mpr ⟨first.raised, second.raised⟩

theorem mono (inventory : Inventory owners rules errors ks) (within : owners ⊆ others) :
    Inventory others rules errors ks where
  names := inventory.names
  distinct := inventory.distinct
  raised := fun o member => (inventory.raised o member).imp_left fun owned => within owned

theorem perm (inventory : Inventory owners rules errors ks) (same : ks.Perm ls) :
    Inventory owners rules errors ls where
  names := (same.map Constant.name).symm.trans inventory.names
  distinct := inventory.distinct
  raised := inventory.raised

private theorem appendApart (first : Inventory owners rules errors ks)
    (second : Inventory others rest more ls) (apart : owners.Disjoint others) :
    Inventory (owners ++ others) (rules ++ rest) (errors ++ more) (ks ++ ls) := by
  apply (first.mono (List.subset_append_left _ _)).append
    (second.mono (List.subset_append_right _ _))
  intro o inFirst inSecond
  exact apart (first.raised o inFirst).1 (second.raised o inSecond).1

theorem flatten {α : Type} {name : α → String} {rules : α → List Origin} {xs : List α}
    {parts : List (List Constant)}
    (each : List.Forall₂ (fun x ks => ∃ errors, Inventory [name x] (rules x) errors ks) xs parts)
    (distinct : (xs.map name).Nodup) :
    ∃ errors, Inventory (xs.map name) (xs.flatMap rules) errors parts.flatten := by
  induction each with
  | nil => exact ⟨[], .nil _⟩
  | cons first _ ih =>
      obtain ⟨fresh, distinct⟩ := List.nodup_cons.mp distinct
      obtain ⟨errors, first⟩ := first
      obtain ⟨more, later⟩ := ih distinct
      exact ⟨errors ++ more, first.appendApart later (List.singleton_disjoint.mpr fresh)⟩

section Ruled

variable (ruled : ∀ o ∈ rules, o.Placed owners ∧ o.mark.isError = false)

include ruled

private theorem placed_of_mem (inventory : Inventory owners rules errors ks) :
    ∀ o ∈ rules ++ errors, o.Placed owners := by
  intro o member
  rcases List.mem_append.mp member with inRules | inErrors
  · exact (ruled o inRules).1
  · obtain ⟨owned, plain, error⟩ := inventory.raised o inErrors
    exact ⟨owned, by simp [plain], Mark.proper_of_isError error⟩

theorem mem_rules_iff (inventory : Inventory owners rules errors ks) {o : Origin}
    (member : o ∈ rules ++ errors) : o ∈ rules ↔ o.mark.isError = false := by
  constructor
  · intro inRules
    exact (ruled o inRules).2
  · intro quiet
    apply (List.mem_append.mp member).resolve_right
    intro inErrors
    rw [(inventory.raised o inErrors).2.2] at quiet
    cases quiet

private theorem origins_nodup (inventory : Inventory owners rules errors ks)
    (distinct : rules.Nodup) :
    (rules ++ errors).Nodup := by
  apply distinct.append inventory.distinct
  intro o inRules inErrors
  have raised := (inventory.raised o inErrors).2.2
  rw [(ruled o inRules).2] at raised
  cases raised

/-- Names clash only where the position of one field is called like another field. -/
theorem nodup_iff (inventory : Inventory owners rules errors ks)
    (apart : (owners.map Text.camel).Nodup) (distinct : rules.Nodup) :
    (ks.map Constant.name).Nodup ↔ ∀ o ∈ rules, ∀ p ∈ rules, o.suffix ≠ "" → p.suffix = "" →
      Text.camel p.owner = o.stem → o.mark ≠ p.mark := by
  have placed := inventory.placed_of_mem ruled
  rw [inventory.names.nodup_iff, List.nodup_map_iff_inj_on (inventory.origins_nodup ruled distinct)]
  constructor
  · intro injective o inRules p pInRules suffixed plain stem same
    have named : o.name = p.name := by
      rw [Origin.name_eq_iff (ruled o inRules).1.proper (ruled p pInRules).1.proper,
        Origin.stem_of_plain plain]
      exact ⟨stem.symm, same⟩
    have equal := injective o (List.mem_append_left _ inRules) p (List.mem_append_left _ pInRules)
      named
    exact suffixed (equal ▸ plain)
  · intro unlike
    -- Only constants for rules have suffixes, and what has the mark of one is for a rule, too.
    have clashFree : ∀ o ∈ rules ++ errors, ∀ p ∈ rules ++ errors, o.stem = p.stem →
        o.mark = p.mark → p.suffix = "" → o.suffix = "" := by
      intro o member p pMember stems marks plain
      rw [Origin.stem_of_plain plain] at stems
      rcases List.mem_append.mp member with inRules | inErrors
      · have pInRules : p ∈ rules := by
          rw [inventory.mem_rules_iff ruled pMember, ← marks]
          exact (ruled o inRules).2
        by_contra suffixed
        exact unlike o inRules p pInRules suffixed plain stems.symm marks
      · exact (inventory.raised o inErrors).2.1
    intro o member p pMember same
    have first := placed o member
    have second := placed p pMember
    obtain ⟨stems, marks⟩ := (Origin.name_eq_iff first.proper second.proper).mp same
    have suffixes : o.suffix = p.suffix := by
      rcases suffix_cases first.suffix second.suffix stems with same | plain | plain
      · exact same
      · rw [plain, clashFree p pMember o member stems.symm marks.symm plain]
      · rw [plain, clashFree o member p pMember stems marks plain]
    exact Origin.eq_of_stem_eq apart first second suffixes stems marks

end Ruled

end Inventory

section Fields

variable {schema : Schema} {c : Context} {ks : List Constant}

theorem Marked.inventory {ms errors : List Mark} {value : Option ValueRules}
    (marked : Marked c ms ks) (perm : ms.Perm (valueMarks value ++ errors))
    (raised : ∀ m ∈ errors, m.isError = true ∧ c.suffix = "") :
    Inventory [c.field.name] ((valueMarks value).map (Origin.mk c.field.name c.suffix))
      (errors.map (Origin.mk c.field.name c.suffix)) ks where
  names := by
    rw [marked.names, ← List.map_append, List.map_map]
    exact perm.map (Mark.name c)
  distinct := by
    have nodup := (List.nodup_append.mp (perm.nodup_iff.mp marked.distinct)).2.1
    apply nodup.map
    intro m n same
    exact (Origin.mk.inj same).2.2
  raised := by
    intro o member
    obtain ⟨m, inside, rfl⟩ := List.mem_map.mp member
    obtain ⟨error, plain⟩ := raised m inside
    exact ⟨List.mem_singleton_self _, plain, error⟩

private theorem nested_inventory {α : Type} {p : Context.Nested α} {step : Context.Step}
    {items : List Constant} (accepted : p.Accepted schema c) (unnamed : step.errorIndex = none)
    (declared : writeNested (constantsPass schema) p c step = .ok items) :
    Inventory [c.field.name] (ruleOrigins c.field.name (placedAt step.suffix p.declared)) []
      items := by
  obtain ⟨ms, marked, perm⟩ := nested_marked accepted unnamed declared
  rw [← List.append_nil (valueMarks _)] at perm
  rw [placedAt, ruleOrigins_option]
  exact marked.inventory perm fun _ member => absurd member List.not_mem_nil

private theorem ownErrors_inventory {α : Type} (outermost : c.Outermost)
    (own : α → Option ErrorSpec)
    (rules : List α) : ∃ errors, Inventory [c.field.name] [] errors (ownErrors c own rules) := by
  obtain ⟨ms, marked, error⟩ := ownErrors_marked c own rules
  have bare : ms.Perm (valueMarks none ++ ms) := .refl ms
  refine ⟨_, marked.inventory bare fun m member => ?_⟩
  obtain ⟨i, rfl⟩ := error m member
  exact ⟨rfl, outermost.plain⟩

private theorem single_inventory (outermost : c.Outermost)
    (values : ∀ t, c.rules = .typed t → ∃ v, t = .value v)
    (declared : (constantsPass schema).render c = .ok ks) :
    ∃ errors, Inventory [c.field.name] (ruleOrigins c.field.name c.rules.placed) errors ks := by
  rw [render_of_single _ values] at declared
  obtain ⟨ms, marked, errors, perm, raised, _⟩ := single_marked declared
  rw [placed_of_values values, ruleOrigins_option, ← outermost.plain]
  exact ⟨_, marked.inventory perm fun m member => ⟨raised m member, outermost.plain⟩⟩

private theorem repeated_inventory {rules : List (RepeatedRule FieldRules)}
    {declaredRules : FieldRules}
    (checked : c.Checked schema declaredRules) (outermost : c.Outermost)
    (own : c.rules = .typed (.repeated rules))
    (declared : (constantsPass schema).render c = .ok ks) :
    ∃ errors, Inventory [c.field.name] (ruleOrigins c.field.name c.rules.placed) errors ks := by
  obtain ⟨element, accepted, render⟩ := render_of_repeated checked own
  rw [render] at declared
  obtain ⟨items, inside, same⟩ := bind_eq_ok_iff.mp declared
  obtain rfl : items ++ ownErrors c RepeatedRule.error rules = ks := Except.ok.inj same
  obtain ⟨errors, raised⟩ := ownErrors_inventory outermost RepeatedRule.error rules
  have both := (nested_inventory accepted rfl inside).append raised (List.disjoint_nil_left _)
  rw [List.append_nil] at both
  rw [own]
  exact ⟨_, both⟩

private theorem map_inventory {rules : List (MapRule FieldRules)} {declaredRules : FieldRules}
    (checked : c.Checked schema declaredRules) (outermost : c.Outermost)
    (own : c.rules = .typed (.map rules)) (declared : (constantsPass schema).render c = .ok ks) :
    ∃ errors, Inventory [c.field.name] (ruleOrigins c.field.name c.rules.placed) errors ks := by
  obtain ⟨key, value, keysAccepted, valuesAccepted, render⟩ := render_of_map checked own
  rw [render] at declared
  obtain ⟨keys, keysInside, declared⟩ := bind_eq_ok_iff.mp declared
  obtain ⟨values, valuesInside, same⟩ := bind_eq_ok_iff.mp declared
  obtain rfl : keys ++ values ++ ownErrors c MapRule.error rules = ks := Except.ok.inj same
  obtain ⟨errors, raised⟩ := ownErrors_inventory outermost MapRule.error rules
  have nested := (nested_inventory keysAccepted rfl keysInside).append
    (nested_inventory valuesAccepted rfl valuesInside) (List.disjoint_nil_left _)
  have all := nested.append raised (List.disjoint_nil_left _)
  rw [List.append_nil, ← ruleOrigins_append] at all
  rw [own]
  exact ⟨_, all⟩

private theorem field_inventory {message : Message} (accepted : message.Accepted schema)
    {field : Field} (member : field ∈ message.fields)
    (written : (constantsPass schema).renderField message field = .ok ks) :
    ∃ errors, Inventory [field.name] (ruleOrigins field.name field.placed) errors ks := by
  obtain ⟨c, rules, reached, checked⟩ := accepted.ofField_eq_ok member
  obtain ⟨outermost, _⟩ := Context.outermost_of_ofField reached
  have declared : (constantsPass schema).render c = .ok ks := by
    rw [Pass.renderField, reached] at written
    exact written
  obtain ⟨rfl, placed⟩ := placed_of_ofField reached
  rw [← placed]
  rcases c.rules_cases with values | ⟨rules, own⟩ | ⟨rules, own⟩
  · exact single_inventory outermost values declared
  · exact repeated_inventory checked outermost own declared
  · exact map_inventory checked outermost own declared

private theorem oneof_inventory {message : Message} {oneof : Oneof}
    (written : oneofError message oneof = .ok ks) :
    ∃ errors, Inventory [oneof.name] [] errors ks := by
  obtain ⟨rules, read, written⟩ := bind_eq_ok_iff.mp written
  split at written
  · obtain ⟨base, _, same⟩ := bind_eq_ok_iff.mp written
    cases same
    have name : oneofErrorName oneof = (Origin.mk oneof.name "" .required).name := by
      have word : "__RequiredError" = "__" ++ "RequiredError" := by decide
      have whole : (Origin.mk oneof.name "" .required).name =
          Text.camel oneof.name ++ "" ++ "__" ++ "RequiredError" ++ "" := rfl
      rw [oneofErrorName, whole, String.append_empty, String.append_empty, word,
        ← String.append_assoc]
    refine ⟨[⟨oneof.name, "", .required⟩], ?_, List.nodup_singleton _, ?_⟩
    · rw [List.map_singleton, name]
      exact .refl _
    · exact List.forall_mem_singleton.mpr ⟨List.mem_singleton_self _, rfl, rfl⟩
  · cases written
    exact ⟨[], .nil _⟩

end Fields

section Classes

variable {schema : Schema} {message : Message} {body : ClassBody}

private theorem renderedFields_names_nodup (fields : (message.fields.map Field.name).Nodup)
    (oneofs : (message.oneofs.map Oneof.name).Nodup) :
    (message.renderedFields.map Field.name).Nodup := by
  apply (Message.renderedFields_nodup fields.of_map oneofs).map_on
  intro f fMember g gMember same
  exact List.inj_on_of_nodup_map fields (Message.mem_fields_of_mem_renderedFields fMember)
    (Message.mem_fields_of_mem_renderedFields gMember) same

private theorem constants_perm (groups : List OneofConstants) :
    ((groups.flatMap OneofConstants.members).flatten ++
      (groups.map OneofConstants.own).flatten).Perm (groups.flatMap OneofConstants.all) := by
  have members : (groups.flatMap OneofConstants.members).flatten =
      groups.flatMap fun g => g.members.flatten := by
    induction groups with
    | nil => rfl
    | cons g groups ih => simp [ih]
  rw [members, ← List.flatMap_def]
  exact List.perm_append_comm.trans (List.flatMap_append_perm groups _ _)

def classOrigins (message : Message) : List Origin :=
  message.renderedFields.flatMap fun field => ruleOrigins field.name field.placed

theorem mem_classOrigins_iff {o : Origin} : o ∈ classOrigins message ↔
    ∃ field ∈ message.renderedFields, o.owner = field.name ∧
      ∃ v, (o.suffix, v) ∈ field.placed ∧ o.mark ∈ ruleMarks v := by
  simp only [classOrigins, List.mem_flatMap, mem_ruleOrigins_iff]

private theorem classOrigins_nodup (names : (message.renderedFields.map Field.name).Nodup) :
    (classOrigins message).Nodup := by
  apply List.nodup_flatMap.mpr
  constructor
  · intro field _
    exact ruleOrigins_nodup (field.suffixes_sublist.nodup (by decide))
  · apply (List.pairwise_map.mp names).imp
    intro f g apart o first second
    exact apart ((mem_ruleOrigins_iff.mp first).1.symm.trans (mem_ruleOrigins_iff.mp second).1)

private theorem placed_of_mem_classOrigins {o : Origin} (member : o ∈ classOrigins message) :
    o.Placed (message.fields.map Field.name) ∧ o.mark.isError = false := by
  obtain ⟨field, rendered, owned, v, inside, marked⟩ := mem_classOrigins_iff.mp member
  obtain ⟨label, alternative, rule⟩ := exists_rule_of_mem_marks marked
  have declared : field.name ∈ message.fields.map Field.name :=
    List.mem_map_of_mem (Message.mem_fields_of_mem_renderedFields rendered)
  refine ⟨⟨owned ▸ declared, ?_, ?_⟩, ?_⟩
  · exact field.suffixes_sublist.subset (List.mem_map_of_mem inside)
  · exact proper_of_mem_entryMarks labels_sublist marked
  · rw [rule]
    rfl

private theorem class_inventory (accepted : message.Accepted schema)
    (distinct : (message.fields.map Field.name ++ message.oneofs.map Oneof.name).Nodup)
    (written : ClassBody.ofMessage schema message = .ok body) :
    ∃ errors, Inventory (message.fields.map Field.name ++ message.oneofs.map Oneof.name)
      (classOrigins message) errors body.constants := by
  obtain ⟨fields, oneofs, apart⟩ := List.nodup_append'.mp distinct
  obtain ⟨plain, groups, same, members, own⟩ := (ClassBody.covers_of_ofMessage written).constants
  have eachField : List.Forall₂ (fun field ks =>
      ∃ errors, Inventory [field.name] (ruleOrigins field.name field.placed) errors ks)
      message.renderedFields (plain ++ groups.flatMap OneofConstants.members) := by
    have declared : ∀ field ∈ message.renderedFields, field ∈ message.fields :=
      fun _ => Message.mem_fields_of_mem_renderedFields
    apply ((List.forall₂_and_left _ _).mpr ⟨declared, members⟩).imp
    intro field ks ⟨member, written⟩
    exact field_inventory accepted member written
  have eachOneof : List.Forall₂ (fun oneof ks => ∃ errors, Inventory [oneof.name] [] errors ks)
      message.oneofs (groups.map OneofConstants.own) :=
    own.imp fun _ _ written => oneof_inventory written
  obtain ⟨errors, ofFields⟩ :=
    Inventory.flatten eachField (renderedFields_names_nodup fields oneofs)
  obtain ⟨more, ofOneofs⟩ := Inventory.flatten eachOneof oneofs
  have subset : message.renderedFields.map Field.name ⊆ message.fields.map Field.name :=
    List.map_subset _ fun _ => Message.mem_fields_of_mem_renderedFields
  have whole := (ofFields.mono subset).appendApart ofOneofs apart
  have bare : message.oneofs.flatMap (fun _ => ([] : List Origin)) = [] := by simp
  rw [bare, List.append_nil] at whole
  refine ⟨errors ++ more, whole.perm ?_⟩
  rw [same, List.flatten_append, List.append_assoc]
  exact (constants_perm groups).append_left _

/-- Names of constants clash exactly if the keys or the values of a map and another field, which is
called like the map with the suffix for these, have constants for the same rule of the same
alternative. -/
theorem constant_names_distinct_iff {file : File}
    (accepted : checkMessage schema file message = .ok ())
    (enabled : message.isDisabled = .ok false)
    (apart : ((message.fields.map Field.name ++ message.oneofs.map Oneof.name).map
      Text.camel).Nodup)
    (written : ClassBody.ofMessage schema message = .ok body) :
    (body.constants.map Constant.name).Nodup ↔
      ∀ f ∈ message.renderedFields, ∀ g ∈ message.renderedFields, ∀ suffix ∈ ["Key", "Value"],
        Text.camel g.name = Text.camel f.name ++ suffix → ∀ v w, (suffix, v) ∈ f.placed →
          ("", w) ∈ g.placed → (ruleMarks v).Disjoint (ruleMarks w) := by
  obtain ⟨disabled, read, fields⟩ := checkDeclarations_eq_ok_iff.mp
    (checkMessage_eq_ok_iff.mp accepted)
  cases enabled.symm.trans read
  obtain ⟨errors, inventory⟩ := class_inventory (fields rfl) apart.of_map written
  obtain ⟨fieldNames, oneofNames, _⟩ := List.nodup_append'.mp apart.of_map
  have distinct := classOrigins_nodup (renderedFields_names_nodup fieldNames oneofNames)
  have ruled : ∀ o ∈ classOrigins message,
      o.Placed (message.fields.map Field.name ++ message.oneofs.map Oneof.name) ∧
        o.mark.isError = false := by
    intro o member
    obtain ⟨⟨owned, suffix, proper⟩, quiet⟩ := placed_of_mem_classOrigins member
    exact ⟨⟨List.mem_append_left _ owned, suffix, proper⟩, quiet⟩
  rw [inventory.nodup_iff ruled apart distinct]
  constructor
  · intro unlike f fRendered g gRendered suffix known called v w inV inW m first second
    have nested : ⟨f.name, suffix, m⟩ ∈ classOrigins message :=
      mem_classOrigins_iff.mpr ⟨f, fRendered, rfl, v, inV, first⟩
    have outer : ⟨g.name, "", m⟩ ∈ classOrigins message :=
      mem_classOrigins_iff.mpr ⟨g, gRendered, rfl, w, inW, second⟩
    have suffixed : suffix ≠ "" := by
      intro plain
      rw [plain] at known
      exact absurd known (by decide)
    exact unlike _ nested _ outer suffixed rfl called rfl
  · intro apartFields o member p pMember suffixed plain called same
    obtain ⟨f, fRendered, fOwns, v, inV, first⟩ := mem_classOrigins_iff.mp member
    obtain ⟨g, gRendered, gOwns, w, inW, second⟩ := mem_classOrigins_iff.mp pMember
    have known := (List.mem_cons.mp (ruled o member).1.suffix).resolve_left suffixed
    rw [gOwns, Origin.stem, fOwns] at called
    rw [plain] at inW
    rw [← same] at second
    exact apartFields f fRendered g gRendered o.suffix known called v w inV inW first second

end Classes

/-! A map, and a field that is called like the keys of the map. -/

def rates : Field where
  name := "rate"
  shape := .map (.scalar (.numeric .int32)) (.scalar .string)
  extensions := Extensions.insert {} rulesKey (.obj [("map", .obj [("rules", .arr [
    .obj [("keys", .obj [("int32", .obj [("rules", .arr [.obj [("gt", .int 0)]])])]),
      ("error", .obj [("method", .str "badRate")])]])])])

def rateKey (rule : String) : Field where
  name := "rate_key"
  shape := .single (.scalar (.numeric .int32))
  extensions := Extensions.insert {} rulesKey (.obj [("int32", .obj [("rules", .arr [
    .obj [(rule, .int 9), ("error", .obj [("method", .str "badKey")])]])])])

def prices (rule : String) : Message where
  name := "Prices"
  fields := [rates, rateKey rule]

def priceFile (rule : String) : File where
  name := "prices.proto"
  package := "acme"
  messages := [prices rule]

/-- Different rules of the two have different names. -/
theorem prices_constant_names_distinct :
    checkMessage (Schema.ofFiles [priceFile "lt"]) (priceFile "lt") (prices "lt") = .ok () ∧
      ∃ body, ClassBody.ofMessage (Schema.ofFiles [priceFile "lt"]) (prices "lt") = .ok body ∧
        body.constants.map Constant.name =
          ["rateKey__Gt", "rate__Error0", "rateKey__Lt", "rateKey__Error0"] ∧
        (body.constants.map Constant.name).Nodup := by
  have accepted : checkMessage (Schema.ofFiles [priceFile "lt"]) (priceFile "lt") (prices "lt") =
    .ok () := rfl
  refine ⟨accepted, _, rfl, rfl, ?_⟩
  apply (constant_names_distinct_iff accepted rfl (by decide) rfl).mpr
  have keys : ∀ p ∈ rates.placed, p.1 = "Key" ∧ ruleMarks p.2 = [.rule "Gt" 0] := by decide
  have own : ∀ p ∈ (rateKey "lt").placed, p.1 = "" ∧ ruleMarks p.2 = [.rule "Lt" 0] := by decide
  intro f fRendered g gRendered suffix known _ v w inV inW
  have fMember : f ∈ [rates, rateKey "lt"] := fRendered
  have gMember : g ∈ [rates, rateKey "lt"] := gRendered
  simp only [List.mem_cons, List.not_mem_nil, or_false] at fMember gMember
  rcases fMember with rfl | rfl
  · rcases gMember with rfl | rfl
    · have same : "" = "Key" := (keys _ inW).1
      exact absurd same (by decide)
    · have first : ruleMarks v = [.rule "Gt" 0] := (keys _ inV).2
      have second : ruleMarks w = [.rule "Lt" 0] := (own _ inW).2
      rw [first, second, List.singleton_disjoint]
      decide
  · have plain : suffix = "" := (own _ inV).1
    rw [plain] at known
    exact absurd known (by decide)

/-- With the same rule in both, one name is declared for two constants. -/
theorem prices_constant_declared_twice :
    checkMessage (Schema.ofFiles [priceFile "gt"]) (priceFile "gt") (prices "gt") = .ok () ∧
      (prices "gt").isDisabled = .ok false ∧
      (((prices "gt").fields.map Field.name ++ (prices "gt").oneofs.map Oneof.name).map
        Text.camel).Nodup ∧
      ∃ body, ClassBody.ofMessage (Schema.ofFiles [priceFile "gt"]) (prices "gt") = .ok body ∧
        body.constants.map Constant.name =
          ["rateKey__Gt", "rate__Error0", "rateKey__Gt", "rateKey__Error0"] ∧
        ¬ (body.constants.map Constant.name).Nodup := by
  exact ⟨rfl, rfl, by decide, _, rfl, rfl, by decide⟩

end Java

end ProtoRules
