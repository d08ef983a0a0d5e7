import ProtoRules.Plugin.Request
import ProtoRules.Proofs.JsonParts

/-!
Descriptors that are written and read again. Every member that is left out is read as what it is
left out for; the extension payloads come back if every object in them is in order.
-/

namespace ProtoRules

open Json (Rearranges rearranges_id)

variable {β : Type}

theorem ValueType.ofJson?_toJson (t : ValueType) : ofJson? t.toJson = some t := by
  cases t with
  | numeric k => cases k <;> rfl
  | _ => rfl

theorem ElementType.ofJson?_toJson (e : ElementType) : ofJson? e.toJson = some e := by
  cases e with
  | enum name => rfl
  | message name => rfl
  | scalar t => exact congrArg (Option.map scalar) t.ofJson?_toJson

theorem Shape.ofJson?_toJson (s : Shape) : ofJson? s.toJson = some s := by
  cases s with
  | single e => exact congrArg (Option.map single) e.ofJson?_toJson
  | repeated e => exact congrArg (Option.map repeated) e.ofJson?_toJson
  | map key value =>
      have inner : (do
          let r ← Json.record? ["key", "value"] false
            (.obj [("key", key.toJson), ("value", value.toJson)])
          return map (← r.required? "key" ElementType.ofJson?)
            (← r.required? "value" ElementType.ofJson?)) = some (map key value) := by
        simp only [Json.singleton_eq_present, Json.cons_present]
        refine rearranges_id.record rfl (by decide) fun _ lists => ?_
        refine lists.required? key.ofJson?_toJson fun lists => ?_
        refine lists.required? value.ofJson?_toJson fun lists => ?_
        rfl
      exact inner

theorem EnumValue.ofJson?_toJson (v : EnumValue) : ofJson? v.toJson = some v := by
  simp only [toJson, Json.singleton_eq_present, Json.cons_present]
  refine rearranges_id.record rfl (by decide) fun _ lists => ?_
  refine lists.required? (rearranges_id.text? v.name) fun lists => ?_
  refine lists.required? (rearranges_id.word? v.number) fun lists => ?_
  rfl

theorem Enum.ofJson?_toJson (e : Enum) : ofJson? e.toJson = some e := by
  simp only [toJson, Json.singleton_eq_present, Json.cons_present]
  refine rearranges_id.record rfl (by decide) fun _ lists => ?_
  refine lists.required? (rearranges_id.text? e.name) fun lists => ?_
  refine lists.required? (rearranges_id.list? fun v _ => v.ofJson?_toJson) fun lists => ?_
  rfl

theorem FileOptions.ofJson?_toJson (o : FileOptions) : ofJson? o.toJson = some o := by
  simp only [toJson, Json.opt_eq_present, Json.singleton_eq_present, ← Json.present_append,
    List.cons_append, List.nil_append]
  refine rearranges_id.record rfl (by decide) fun _ lists => ?_
  refine lists.optional? rfl (fun name _ => rearranges_id.text? name) fun lists => ?_
  refine lists.optional? rfl (fun name _ => rearranges_id.text? name) fun lists => ?_
  refine lists.flag? rearranges_id fun lists => ?_
  rfl

namespace Extensions

/-- Payloads as they are held: each key once and in order, throughout. -/
def Ordered (e : Extensions) : Prop :=
  Json.Throughout (fun _ i => i.IsOrdered ∧ i ≠ .unreadable) 0 e.toJson

theorem ofJson?_toJson {e : Extensions} (ordered : e.Ordered) : ofJson? e.toJson = some e := by
  have readable : e.toJson.isReadable = true :=
    Json.isReadable_of_throughout (ordered.mono fun _ _ held => held.2)
  have same : Json.canonical e.toJson = e.toJson :=
    Json.canonical_of_throughout (ordered.mono fun _ _ held => held.1)
  have members : Json.canonicalMembers e.members [] = e.members := Json.obj.inj same
  rw [toJson] at readable
  simp only [toJson, ofJson?, readable, if_true, members]

def slot (e : Extensions) : Option Json :=
  if e.isEmpty then none else some e.toJson

private theorem optMember_eq_present (e : Extensions) :
    e.optMember = Json.present [("extensions", e.slot)] := by
  rw [optMember, slot]
  split
  · rfl
  · rfl

private theorem ofRecord?_of_lists {e : Extensions} {r : Json.Record} {slots : Json.Slots} {b : β}
    {next : Extensions → Option β} (lists : r.Lists id (("extensions", e.slot) :: slots))
    (ordered : e.Ordered) (rest : r.Lists id slots → next e = some b) :
    (ofRecord? r >>= next) = some b := by
  cases empty : e.isEmpty with
  | true =>
      -- Nothing is written, and what is read in its place is empty.
      have none : e = {} := by
        cases e with
        | mk members => exact congrArg mk (List.isEmpty_iff.mp empty)
      subst none
      rw [ofRecord?, Json.Record.default?, Json.Record.field?, lists.head]
      exact rest lists.tail
  | false =>
      rw [slot, empty] at lists
      exact lists.default? (ofJson?_toJson ordered) rest

end Extensions

theorem Field.ofJson?_toJson {f : Field} (ordered : f.extensions.Ordered) :
    ofJson? f.toJson = some f := by
  simp only [toJson, Json.opt_eq_present, Json.singleton_eq_present, Json.cons_present,
    Extensions.optMember_eq_present, ← Json.present_append, List.cons_append, List.nil_append]
  refine rearranges_id.record rfl (by decide) fun _ lists => ?_
  refine lists.required? (rearranges_id.text? f.name) fun lists => ?_
  refine lists.required? f.shape.ofJson?_toJson fun lists => ?_
  refine lists.optional? rfl (fun name _ => rearranges_id.text? name) fun lists => ?_
  refine Extensions.ofRecord?_of_lists lists ordered fun _ => ?_
  rfl

theorem Oneof.ofJson?_toJson {o : Oneof} (ordered : o.extensions.Ordered) :
    ofJson? o.toJson = some o := by
  simp only [toJson, Json.singleton_eq_present, Extensions.optMember_eq_present,
    ← Json.present_append, List.cons_append, List.nil_append]
  refine rearranges_id.record rfl (by decide) fun _ lists => ?_
  refine lists.required? (rearranges_id.text? o.name) fun lists => ?_
  refine Extensions.ofRecord?_of_lists lists ordered fun _ => ?_
  rfl

/-- The extension payloads of a message, each with the number of containers that stand around it in
the text of a request. -/
def Message.payloads (m : Message) : List (Nat × Extensions) :=
  (5, m.extensions) :: (m.fields.map fun f => (7, f.extensions)) ++
    m.oneofs.map fun o => (7, o.extensions)

def Request.payloads (r : Request) : List (Nat × Extensions) :=
  r.files.flatMap fun file => file.messages.flatMap Message.payloads

theorem Message.forall_payloads_iff {m : Message} {P : Nat × Extensions → Prop} :
    (∀ p ∈ m.payloads, P p) ↔ P (5, m.extensions) ∧ (∀ f ∈ m.fields, P (7, f.extensions)) ∧
      ∀ o ∈ m.oneofs, P (7, o.extensions) := by
  rw [payloads, List.cons_append, List.forall_mem_cons, List.forall_mem_append,
    List.forall_mem_map, List.forall_mem_map]

theorem Request.forall_payloads_iff {r : Request} {P : Nat × Extensions → Prop} :
    (∀ p ∈ r.payloads, P p) ↔
      ∀ file ∈ r.files, ∀ m ∈ file.messages, ∀ p ∈ m.payloads, P p := by
  simp only [payloads, List.forall_mem_flatMap]

theorem Message.ofJson?_toJson {m : Message} (ordered : ∀ p ∈ m.payloads, p.2.Ordered) :
    ofJson? m.toJson = some m := by
  obtain ⟨own, fields, oneofs⟩ := forall_payloads_iff.mp ordered
  simp only [toJson, Json.many_eq_present, Json.singleton_eq_present, Json.cons_present,
    Extensions.optMember_eq_present, ← Json.present_append, List.cons_append, List.nil_append]
  refine rearranges_id.record rfl (by decide) fun _ lists => ?_
  refine lists.required? (rearranges_id.text? m.name) fun lists => ?_
  refine lists.default? (rearranges_id.list? fun f listed => f.ofJson?_toJson (fields f listed))
    fun lists => ?_
  refine lists.list? rearranges_id (fun o listed => o.ofJson?_toJson (oneofs o listed))
    fun lists => ?_
  refine Extensions.ofRecord?_of_lists lists own fun _ => ?_
  rfl

theorem File.ofJson?_toJson {file : File}
    (ordered : ∀ m ∈ file.messages, ∀ p ∈ m.payloads, p.2.Ordered) :
    ofJson? file.toJson = some file := by
  simp only [toJson, Json.many_eq_present, Json.singleton_eq_present, Json.cons_present,
    ← Json.present_append, List.cons_append, List.nil_append]
  refine rearranges_id.record rfl (by decide) fun _ lists => ?_
  refine lists.required? (rearranges_id.text? file.name) fun lists => ?_
  refine lists.default? (rearranges_id.text? file.package) fun lists => ?_
  refine lists.default? file.options.ofJson?_toJson fun lists => ?_
  refine lists.default? (rearranges_id.list? fun m listed => m.ofJson?_toJson (ordered m listed))
    fun lists => ?_
  refine lists.list? rearranges_id (fun e _ => e.ofJson?_toJson) fun lists => ?_
  rfl

theorem Request.ofJson?_toJson {r : Request} (ordered : ∀ p ∈ r.payloads, p.2.Ordered) :
    ofJson? r.toJson = some r := by
  have each := forall_payloads_iff.mp ordered
  simp only [toJson, Json.many_eq_present, Json.singleton_eq_present, ← Json.present_append,
    List.cons_append, List.nil_append]
  refine rearranges_id.record rfl (by decide) fun _ lists => ?_
  refine lists.required? (rearranges_id.list? fun file listed =>
    file.ofJson?_toJson (each file listed)) fun lists => ?_
  refine lists.list? rearranges_id (fun name _ => rearranges_id.text? name) fun lists => ?_
  refine lists.default? (rearranges_id.text? r.parameter) fun lists => ?_
  rfl

end ProtoRules
