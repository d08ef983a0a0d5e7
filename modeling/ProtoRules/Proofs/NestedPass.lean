import ProtoRules.Proofs.NestedDecoding

/-!
Typed rules that are read by themselves, with no look beforehand at the rule sets inside them. The
look makes no difference to what is accepted but for one value: null, by which an optional field may
be left out, is no rule set when it is looked at.
-/

namespace ProtoRules

namespace Json

variable {α : Type} {read : Json → Option α}

private theorem nullable?_cases {j : Json} {x : Option α} (held : nullable? read j = some x) :
    j = .null ∨ ∃ a, read j = some a := by
  cases j with
  | null => exact .inl rfl
  | _ =>
      obtain ⟨a, found, _⟩ := Option.map_eq_some_iff.mp held
      exact .inr ⟨a, found⟩

private theorem Record.optional?_cases {r : Record} {name : String} {j : Json} {x : Option α}
    (held : r.optional? name read = some x) (found : Dictionary.find? name r.members = some j) :
    j = .null ∨ ∃ a, read j = some a := by
  rw [Record.optional?, Record.field?, found] at held
  exact nullable?_cases held

private theorem reads_of_list? {items : List Json} {as : List α}
    (held : list? read (.arr items) = some as) :
    ∀ i ∈ items, ∃ a, read i = some a := by
  rw [list?] at held
  induction items generalizing as with
  | nil => exact fun _ listed => absurd listed List.not_mem_nil
  | cons i items ih =>
      simp only [List.mapM_cons, Option.bind_eq_bind, Option.bind_eq_some_iff] at held
      obtain ⟨first, found, rest, later, _⟩ := held
      exact List.forall_mem_cons.mpr ⟨⟨first, found⟩, ih later⟩

/-- A record that is opened from an object has the members of the object. -/
private theorem find?_of_record? {fields : List String} {closed : Bool} {j v : Json} {r : Record}
    {key : String} (opened : record? fields closed j = some r) (found : j.get? key = some v) :
    Dictionary.find? key r.members = some v := by
  cases j with
  | obj members =>
      simp only [record?, Option.ite_none_right_eq_some, Option.some.injEq] at opened
      obtain ⟨_, rfl⟩ := opened
      exact found
  | _ => cases found

end Json

private theorem reads_of_alternatives? {α : Type} {read : Json → Option α} {payload : Json}
    {items : List Json} {as : List α} (held : alternatives? read payload = some as)
    (listed : payload.get? "rules" = some (.arr items)) : ∀ i ∈ items, ∃ a, read i = some a := by
  obtain ⟨r, opened, inside⟩ := Option.bind_eq_some_iff.mp held
  have found := Json.find?_of_record? opened listed
  rw [Json.Record.list?, Json.Record.default?, Json.Record.field?, found] at inside
  exact Json.reads_of_list? inside

section Alternatives

variable {ρ : Type} {nested : Json → Option ρ} {j v : Json}

private theorem RepeatedRule.reads_items {r : RepeatedRule ρ} (held : ofJson? nested j = some r)
    (found : j.get? "items" = some v) : v = .null ∨ ∃ n, nested v = some n := by
  simp only [ofJson?, Option.bind_eq_bind, Option.bind_eq_some_iff] at held
  obtain ⟨r, opened, _, _, _, _, _, _, _, items, _⟩ := held
  exact Json.Record.optional?_cases items (Json.find?_of_record? opened found)

private theorem MapRule.reads_entries {r : MapRule ρ} (held : ofJson? nested j = some r)
    {key : String} (known : key ∈ ["keys", "values"]) (found : j.get? key = some v) :
    v = .null ∨ ∃ n, nested v = some n := by
  simp only [ofJson?, Option.bind_eq_bind, Option.bind_eq_some_iff] at held
  obtain ⟨r, opened, _, _, _, _, _, _, _, keys, _, values, _⟩ := held
  have member := Json.find?_of_record? opened found
  rcases List.mem_pair.mp known with rfl | rfl
  · exact Json.Record.optional?_cases keys member
  · exact Json.Record.optional?_cases values member

end Alternatives

namespace TypedRules

theorem mem_nestedPayloads_iff {kind : RuleKind} {payload j : Json} :
    j ∈ nestedPayloads kind payload ↔
      ∃ alternatives, payload.get? "rules" = some (.arr alternatives) ∧
        ∃ a ∈ alternatives, ∃ key ∈ nestedKeys kind, a.get? key = some j := by
  unfold nestedPayloads
  split
  · rename_i alternatives listed
    simp only [listed, List.mem_flatMap, List.mem_filterMap, Option.some.injEq, Json.arr.injEq,
      exists_eq_left']
  · rename_i other
    constructor
    · exact fun listed => absurd listed List.not_mem_nil
    · rintro ⟨alternatives, listed, _⟩
      exact absurd listed (other alternatives)

/-- What can be read holds only rule sets that can be read, or null in place of one. -/
private theorem reads_nestedPayloads {ρ : Type} {nested : Json → Option ρ} {kind : RuleKind}
    {payload : Json} {t : TypedRules ρ} (held : ofPayload? nested payload kind = some t) :
    ∀ j ∈ nestedPayloads kind payload, j = .null ∨ ∃ n, nested j = some n := by
  intro j member
  obtain ⟨alternatives, listed, a, known, key, inside, found⟩ := mem_nestedPayloads_iff.mp member
  cases kind with
  | repeated =>
      obtain ⟨rules, read, _⟩ := Option.map_eq_some_iff.mp held
      obtain ⟨rule, readRule⟩ := reads_of_alternatives? read listed a known
      cases List.mem_singleton.mp inside
      exact RepeatedRule.reads_items readRule found
  | map =>
      obtain ⟨rules, read, _⟩ := Option.map_eq_some_iff.mp held
      obtain ⟨rule, readRule⟩ := reads_of_alternatives? read listed a known
      exact MapRule.reads_entries readRule inside found
  | _ => cases inside

/-- Reads typed rules that are written as one member, named by their kind. -/
def ofJson? (j : Json) : Option (TypedRules FieldRules) :=
  match Json.variant? j with
  | some (name, some payload) =>
    (RuleKind.ofKeyword? name).bind (ofPayload? (fun i => (FieldRules.decode i).toOption) payload)
  | _ => none

private theorem ofJson?_single (kind : RuleKind) (payload : Json) :
    ofJson? (.obj [(kind.keyword, payload)]) =
      ofPayload? (fun i => (FieldRules.decode i).toOption) payload kind := by
  simp only [ofJson?, Json.variant?, RuleKind.ofKeyword?_keyword, Option.bind_some]

/-- An alternative that is written as an object has null where a rule set may stand. -/
def HoldsNull (kind : RuleKind) (payload : Json) : Prop :=
  ∃ alternatives, payload.get? "rules" = some (.arr alternatives) ∧
    ∃ a ∈ alternatives, ∃ key ∈ nestedKeys kind, a.get? key = some .null

theorem holdsNull_iff {kind : RuleKind} {payload : Json} :
    HoldsNull kind payload ↔ .null ∈ nestedPayloads kind payload :=
  mem_nestedPayloads_iff.symm

section Acceptance

variable {kind : RuleKind} {payload : Json} {t : TypedRules FieldRules}

private theorem decode_null : FieldRules.decode .null = .error (malformedRules .notAnObject) := rfl

theorem decode_eq_ok_iff : decode kind payload = .ok t ↔
    ofJson? (.obj [(kind.keyword, payload)]) = some t ∧ ¬ HoldsNull kind payload := by
  rw [ofJson?_single, holdsNull_iff]
  constructor
  · intro decoded
    rw [decode, decodeWith, bind_eq_ok_iff] at decoded
    obtain ⟨_, looked, read⟩ := decoded
    constructor
    · split at read
      · rename_i rules found
        cases read
        exact found
      · cases read
    · intro empty
      obtain ⟨n, known⟩ := discard_eq_ok_iff.mp (forM_eq_ok_iff.mp looked _ empty)
      cases decode_null.symm.trans known
  · rintro ⟨read, full⟩
    refine decodeWith_eq_ok (fun j member => ?_) read
    rcases reads_nestedPayloads read j member with rfl | ⟨n, known⟩
    · exact absurd member full
    · exact ⟨n, toOption_eq_some_iff.mp known⟩

/-- Where the rules can be read, whatever is looked at is either a rule set or null; so the only
complaint there can be is the one about null. -/
private theorem looked_faultsWithin (read : ofJson? (.obj [(kind.keyword, payload)]) = some t) :
    FaultsWithin (· = malformedRules .notAnObject)
      ((nestedPayloads kind payload).forM fun j => discard (FieldRules.decode j)) := by
  rw [ofJson?_single] at read
  refine .forM fun j member => .discard ?_
  rcases reads_nestedPayloads read j member with rfl | ⟨n, known⟩
  · exact .error rfl
  · exact .of_eq_ok (toOption_eq_some_iff.mp known)

private theorem decode_eq_error_of_holdsNull
    (read : ofJson? (.obj [(kind.keyword, payload)]) = some t) (empty : HoldsNull kind payload) :
    decode kind payload = .error (malformedRules .notAnObject) := by
  have within := looked_faultsWithin read
  rw [decode, decodeWith]
  cases looked : (nestedPayloads kind payload).forM fun j => discard (FieldRules.decode j) with
  | error e =>
      cases within e looked
      rfl
  | ok =>
      obtain ⟨n, known⟩ := discard_eq_ok_iff.mp
        (forM_eq_ok_iff.mp looked _ (holdsNull_iff.mp empty))
      cases decode_null.symm.trans known

end Acceptance

/-- Typed rules are decoded to what is read for them by themselves, unless null stands for a rule
set inside them; then they are refused, though they could be read. -/
theorem nested_pass_refuses_only_null (kind : RuleKind) (payload : Json) :
    (∀ t, decode kind payload = .ok t ↔
      ofJson? (.obj [(kind.keyword, payload)]) = some t ∧ ¬ HoldsNull kind payload) ∧
    ∀ t, ofJson? (.obj [(kind.keyword, payload)]) = some t → HoldsNull kind payload →
      decode kind payload = .error (malformedRules .notAnObject) :=
  ⟨fun _ => decode_eq_ok_iff, fun _ => decode_eq_error_of_holdsNull⟩

/-- One alternative for a map. Nothing is said of its keys, and of its values by null. -/
def untoldValues : Json :=
  .obj [("rules", .arr [.obj [("min_pairs", .null), ("values", .null)]])]

theorem untoldValues_refused :
    ofJson? (.obj [("map", untoldValues)]) = some (.map [{}]) ∧ HoldsNull .map untoldValues ∧
      decode .map untoldValues = .error (malformedRules .notAnObject) := by
  have read : ofJson? (.obj [("map", untoldValues)]) = some (.map [{}]) := rfl
  have empty : HoldsNull .map untoldValues :=
    ⟨_, rfl, _, List.mem_cons_self, "values", by decide, rfl⟩
  obtain ⟨_, refused⟩ := nested_pass_refuses_only_null .map untoldValues
  exact ⟨read, empty, refused _ read empty⟩

/-- One alternative for a list, with null for the rules of its items. -/
def untoldItems : Json :=
  .obj [("rules", .arr [.obj [("items", .null)]])]

/-- Null is accepted for the rules of the items when they are read by themselves, but not before. -/
theorem untoldItems_read_but_not_decoded :
    ofJson? (.obj [("repeated", untoldItems)]) = some (.repeated [{}]) ∧
      ∀ t, decode .repeated untoldItems ≠ .ok t := by
  have refused : decode .repeated untoldItems = .error (malformedRules .notAnObject) := rfl
  refine ⟨rfl, fun t decoded => ?_⟩
  cases refused.symm.trans decoded

end TypedRules

end ProtoRules
