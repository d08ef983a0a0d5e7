import ProtoRules.Proofs.RuleRoundTrip

/-!
Nested rule sets lie less deep than the rule set that holds them. So what is read from a value does
not depend on how many levels are allowed for, if only there are enough, and a rule set is read by
the equations that one level is read by.
-/

namespace ProtoRules

namespace Json

private theorem depth_lt_of_mem_items {i : Json} {items : List Json} (listed : i ∈ items) :
    i.depth < (arr items).depth :=
  Nat.lt_succ_of_le (depth_le_depthItems listed)

private theorem depth_lt_of_mem_members {m : Member} {members : List Member}
    (listed : m ∈ members) :
    m.2.depth < (obj members).depth :=
  Nat.lt_succ_of_le (depth_le_depthMembers listed)

private theorem depth_lt_of_mem_record {fields : List String} {closed : Bool} {j : Json}
    {r : Record} (opened : record? fields closed j = some r) {m : Member} (listed : m ∈ r.members) :
    m.2.depth < j.depth := by
  cases j with
  | obj members =>
      simp only [record?, Option.ite_none_right_eq_some, Option.some.injEq] at opened
      obtain ⟨_, rfl⟩ := opened
      exact depth_lt_of_mem_members listed
  | arr items =>
      simp only [record?, Option.ite_none_right_eq_some, Option.some.injEq] at opened
      obtain ⟨_, rfl⟩ := opened
      exact depth_lt_of_mem_items (List.of_mem_zip listed).2
  | _ => cases opened

end Json

section Agreement

variable {α ρ : Type}

private theorem Json.list?_congr {f g : Json → Option α} {j : Json}
    (agree : ∀ i, i.depth < j.depth → f i = g i) : Json.list? f j = Json.list? g j := by
  cases j with
  | arr items =>
      have each : ∀ i ∈ items, f i = g i := fun i listed => agree i (depth_lt_of_mem_items listed)
      rw [Json.list?, Json.list?]
      clear agree
      induction items with
      | nil => rfl
      | cons i items ih =>
          obtain ⟨first, rest⟩ := List.forall_mem_cons.mp each
          rw [List.mapM_cons, List.mapM_cons, first, ih rest]
  | _ => rfl

private theorem Json.Record.optional?_congr {f g : Json → Option α} {r : Json.Record}
    (agree : ∀ m ∈ r.members, f m.2 = g m.2) (name : String) :
    r.optional? name f = r.optional? name g := by
  rw [optional?, optional?, field?, field?]
  split
  · rename_i j found
    have same : f j = g j := agree (name, j) (Dictionary.mem_of_find? found)
    cases j with
    | null => rfl
    | _ => rw [Json.nullable?, Json.nullable?, same] <;> exact Json.noConfusion
  · rfl

private theorem alternatives?_congr {f g : Json → Option α} {payload : Json}
    (agree : ∀ i, i.depth < payload.depth → f i = g i) :
    alternatives? f payload = alternatives? g payload := by
  rw [alternatives?, alternatives?]
  refine Option.bind_congr fun r opened => ?_
  rw [Json.Record.list?, Json.Record.list?, Json.Record.default?, Json.Record.default?,
    Json.Record.field?, Json.Record.field?]
  split
  · rename_i j found
    have shallower : j.depth < payload.depth :=
      Json.depth_lt_of_mem_record opened (Dictionary.mem_of_find? found)
    exact Json.list?_congr fun i inside => agree i (inside.trans shallower)
  · rfl

variable {f g : Json → Option ρ} {j : Json}

private theorem RepeatedRule.ofJson?_congr (agree : ∀ i, i.depth < j.depth → f i = g i) :
    ofJson? f j = ofJson? g j := by
  refine Option.bind_congr fun r opened => ?_
  have same := Json.Record.optional?_congr fun m listed =>
    agree m.2 (Json.depth_lt_of_mem_record opened listed)
  rw [same "items"]

private theorem MapRule.ofJson?_congr (agree : ∀ i, i.depth < j.depth → f i = g i) :
    ofJson? f j = ofJson? g j := by
  refine Option.bind_congr fun r opened => ?_
  have same := Json.Record.optional?_congr fun m listed =>
    agree m.2 (Json.depth_lt_of_mem_record opened listed)
  rw [same "keys", same "values"]

namespace TypedRules

private theorem ofPayload?_congr {payload : Json} (agree : ∀ i, i.depth < payload.depth → f i = g i)
    (kind : RuleKind) : ofPayload? f payload kind = ofPayload? g payload kind := by
  cases kind with
  | repeated =>
      refine congrArg (Option.map repeated) (alternatives?_congr fun j inside => ?_)
      exact RepeatedRule.ofJson?_congr fun i deeper => agree i (deeper.trans inside)
  | map =>
      refine congrArg (Option.map map) (alternatives?_congr fun j inside => ?_)
      exact MapRule.ofJson?_congr fun i deeper => agree i (deeper.trans inside)
  | _ => rfl

theorem decodeWith_congr {f g : Json → Except SchemaError ρ} {payload : Json}
    (agree : ∀ i, i.depth < payload.depth → f i = g i) (kind : RuleKind) :
    decodeWith f kind payload = decodeWith g kind payload := by
  have inside : (nestedPayloads kind payload).forM (fun j => discard (f j)) =
      (nestedPayloads kind payload).forM fun j => discard (g j) := by
    have each : List.Forall₂ (fun i j => f i = g j) (nestedPayloads kind payload)
        (nestedPayloads kind payload) :=
      List.forall₂_same.mpr fun j member => agree j (depth_lt_of_mem_nestedPayloads member)
    exact forM_congr each fun _ _ same => congrArg discard same
  have read : ofPayload? (fun j => (f j).toOption) payload kind =
      ofPayload? (fun j => (g j).toOption) payload kind :=
    ofPayload?_congr (fun i deeper => congrArg Except.toOption (agree i deeper)) kind
  rw [decodeWith, decodeWith, inside, read]

end TypedRules

end Agreement

namespace FieldRules

private theorem addMember_congr {f g : Json → Except SchemaError FieldRules} {m : Json.Member}
    (agree : ∀ i, i.depth < m.2.depth → f i = g i) (rules : FieldRules) :
    addMember f rules m = addMember g rules m := by
  obtain ⟨key, payload⟩ := m
  rw [addMember, addMember]
  simp only [TypedRules.decodeWith_congr agree]

theorem decodeWith_congr {f g : Json → Except SchemaError FieldRules} {j : Json}
    (agree : ∀ i, i.depth < j.depth → f i = g i) : decodeWith f j = decodeWith g j := by
  cases j with
  | obj members =>
      refine foldlM_congr (fun rules m listed => ?_) _
      have shallower : m.2.depth < (Json.obj members).depth := Json.depth_lt_of_mem_members listed
      exact addMember_congr (fun i deeper => agree i (deeper.trans shallower)) rules
  | _ => rfl

/-- Levels beyond the depth of a value make no difference. -/
private theorem decodeWithin_eq_decodeWithin {j : Json} {levels more : Nat}
    (enough : j.depth ≤ levels)
    (plenty : j.depth ≤ more) : decodeWithin levels j = decodeWithin more j := by
  induction levels generalizing j more with
  | zero => exact absurd enough (Nat.not_le.mpr j.depth_pos)
  | succ levels ih =>
      cases more with
      | zero => exact absurd plenty (Nat.not_le.mpr j.depth_pos)
      | succ more => exact decodeWith_congr fun i deeper => ih (by omega) (by omega)

private theorem decode_eq (j : Json) : decode j = decodeWith decode j := by
  have enough : j.depth ≤ j.depth + 1 := Nat.le_succ j.depth
  rw [decode, decodeWithin_eq_decodeWithin (Nat.le_refl _) enough]
  exact decodeWith_congr fun i deeper =>
    decodeWithin_eq_decodeWithin (Nat.le_of_lt deeper) (Nat.le_refl _)

end FieldRules

/-- Reads the rules of a kind, with whatever is nested in them. -/
def TypedRules.decode (kind : RuleKind) (payload : Json) :
    Except SchemaError (TypedRules FieldRules) :=
  decodeWith FieldRules.decode kind payload

theorem TypedRules.kind_of_decode {kind : RuleKind} {payload : Json} {t : TypedRules FieldRules}
    (decoded : decode kind payload = .ok t) : t.kind = kind := by
  rw [decode, decodeWith, bind_eq_ok_iff] at decoded
  obtain ⟨_, _, read⟩ := decoded
  split at read
  · rename_i rules found
    cases read
    cases kind with
    | _ =>
        obtain ⟨parts, _, rfl⟩ := Option.map_eq_some_iff.mp found
        rfl
  · cases read

theorem FieldRules.decode_obj (members : List Json.Member) :
    decode (.obj members) = members.foldlM (addMember decode) {} :=
  decode_eq (.obj members)

end ProtoRules
