import Mathlib.Data.List.Permutation
import ProtoRules.Proofs.Outcome
import ProtoRules.Proofs.Rearrangement
import ProtoRules.Rules.Decode
import ProtoRules.Rules.Encode

/-!
Rule sets that are written and read again. Every record of a rule set comes back from the members
that are written for it, in whichever order these are listed; only rules over floats may come back
rounded, and what is not finite is written as null.
-/

namespace ProtoRules

open Json (Rearranges)

variable {f : Json → Json}

theorem ErrorSpec.ofJson?_toJson (h : Rearranges f) (e : ErrorSpec) :
    ofJson? (f e.toJson) = some e := by
  simp only [toJson, Json.opt_eq_present, Json.singleton_eq_present, ← Json.present_append,
    List.cons_append, List.nil_append]
  refine h.record rfl (by decide) fun r lists => ?_
  refine lists.required? (h.text? e.method) fun lists => ?_
  refine lists.optional? rfl (fun code _ => h.word? code) fun lists => ?_
  refine lists.optional? rfl (fun message _ => h.text? message) fun lists => ?_
  rfl

theorem MessageRules.ofJson?_toJson (h : Rearranges f) (m : MessageRules) :
    ofJson? (f m.toJson) = some m := by
  simp only [toJson, ErrorSpec.members, Json.opt_eq_present, Json.singleton_eq_present,
    Json.cons_present, ← Json.present_append, List.cons_append, List.nil_append]
  refine h.record rfl (by decide) fun r lists => ?_
  refine lists.flag? h fun lists => ?_
  refine lists.flag? h fun lists => ?_
  refine lists.optional? rfl (fun e _ => e.ofJson?_toJson h) fun lists => ?_
  rfl

private theorem number?_ofNumber (h : Rearranges f) {g : NumberFormat} (integer : g.IsInteger)
    (x : Number g) : Json.number? g (f (Json.ofNumber g x)) = some x := by
  cases g with
  | word g => exact h.word? x
  | binary g => exact integer.elim

theorem NumericRule.ofJson?_toJson (h : Rearranges f) {g : NumberFormat} (integer : g.IsInteger)
    (r : NumericRule (Number g)) : ofJson? g (f r.toJson) = some r := by
  have empty : Json.number? g .null = none := by cases g <;> rfl
  have reads (x : Number g) : Json.number? g (f (Json.ofNumber g x)) = some x :=
    number?_ofNumber h integer x
  simp only [toJson, Bounds.members, ErrorSpec.members, Json.opt_eq_present, Json.many_eq_present,
    Json.singleton_eq_present, ← Json.present_append, List.cons_append, List.nil_append]
  refine h.record rfl (by decide) fun _ lists => ?_
  refine lists.nullable? empty (fun x _ => reads x) fun lists => ?_
  refine lists.nullable? empty (fun x _ => reads x) fun lists => ?_
  refine lists.nullable? empty (fun x _ => reads x) fun lists => ?_
  refine lists.nullable? empty (fun x _ => reads x) fun lists => ?_
  refine lists.nullable? empty (fun x _ => reads x) fun lists => ?_
  refine lists.list? h (fun x _ => reads x) fun lists => ?_
  refine lists.list? h (fun x _ => reads x) fun lists => ?_
  refine lists.flag? h fun lists => ?_
  refine lists.optional? rfl (fun e _ => e.ofJson?_toJson h) fun lists => ?_
  rfl

theorem BoolRules.ofJson?_toJson (h : Rearranges f) (r : BoolRules) :
    ofJson? (f r.toJson) = some r := by
  simp only [toJson, ErrorSpec.members, Json.opt_eq_present, ← Json.present_append,
    List.cons_append, List.nil_append]
  refine h.record rfl (by decide) fun _ lists => ?_
  refine lists.optional? rfl (fun b _ => h.flag? b) fun lists => ?_
  refine lists.optional? rfl (fun e _ => e.ofJson?_toJson h) fun lists => ?_
  rfl

theorem KnownPattern.ofJson?_toJson (h : Rearranges f) (p : KnownPattern) :
    ofJson? (f p.toJson) = some p := by
  cases p <;> rw [toJson, h.str] <;> rfl

theorem StringFormat.ofJson?_toJson (h : Rearranges f) (s : StringFormat) :
    ofJson? (f s.toJson) = some s := by
  cases s with
  | pattern p =>
      rw [toJson, h.obj_singleton]
      exact congrArg (Option.map pattern) (p.ofJson?_toJson h)
  | _ =>
      rw [toJson, h.str]
      rfl

theorem StringRule.ofJson?_toJson (h : Rearranges f) (r : StringRule) :
    ofJson? (f r.toJson) = some r := by
  simp only [toJson, ErrorSpec.members, Json.opt_eq_present, Json.many_eq_present,
    Json.singleton_eq_present, ← Json.present_append, List.cons_append, List.nil_append]
  refine h.record rfl (by decide) fun _ lists => ?_
  refine lists.optional? rfl (fun s _ => h.text? s) fun lists => ?_
  refine lists.optional? rfl (fun n _ => h.word? n) fun lists => ?_
  refine lists.optional? rfl (fun n _ => h.word? n) fun lists => ?_
  refine lists.optional? rfl (fun n _ => h.word? n) fun lists => ?_
  refine lists.optional? rfl (fun n _ => h.word? n) fun lists => ?_
  refine lists.optional? rfl (fun n _ => h.word? n) fun lists => ?_
  refine lists.optional? rfl (fun n _ => h.word? n) fun lists => ?_
  refine lists.optional? rfl (fun s _ => h.text? s) fun lists => ?_
  refine lists.optional? rfl (fun s _ => h.text? s) fun lists => ?_
  refine lists.optional? rfl (fun s _ => h.text? s) fun lists => ?_
  refine lists.optional? rfl (fun s _ => h.text? s) fun lists => ?_
  refine lists.optional? rfl (fun s _ => h.text? s) fun lists => ?_
  refine lists.list? h (fun s _ => h.text? s) fun lists => ?_
  refine lists.list? h (fun s _ => h.text? s) fun lists => ?_
  refine lists.optional? rfl (fun s _ => s.ofJson?_toJson h) fun lists => ?_
  refine lists.optional? rfl (fun b _ => h.flag? b) fun lists => ?_
  refine lists.flag? h fun lists => ?_
  refine lists.optional? rfl (fun e _ => e.ofJson?_toJson h) fun lists => ?_
  rfl

theorem BytesFormat.ofJson?_toJson (h : Rearranges f) (b : BytesFormat) :
    ofJson? (f b.toJson) = some b := by
  cases b <;> rw [toJson, h.str] <;> rfl

theorem BytesRule.ofJson?_toJson (h : Rearranges f) (r : BytesRule) :
    ofJson? (f r.toJson) = some r := by
  simp only [toJson, ErrorSpec.members, Json.opt_eq_present, Json.many_eq_present,
    Json.singleton_eq_present, ← Json.present_append, List.cons_append, List.nil_append]
  refine h.record rfl (by decide) fun _ lists => ?_
  refine lists.optional? rfl (fun bs _ => h.bytes? bs) fun lists => ?_
  refine lists.optional? rfl (fun n _ => h.word? n) fun lists => ?_
  refine lists.optional? rfl (fun n _ => h.word? n) fun lists => ?_
  refine lists.optional? rfl (fun n _ => h.word? n) fun lists => ?_
  refine lists.optional? rfl (fun s _ => h.text? s) fun lists => ?_
  refine lists.optional? rfl (fun bs _ => h.bytes? bs) fun lists => ?_
  refine lists.optional? rfl (fun bs _ => h.bytes? bs) fun lists => ?_
  refine lists.optional? rfl (fun bs _ => h.bytes? bs) fun lists => ?_
  refine lists.list? h (fun bs _ => h.bytes? bs) fun lists => ?_
  refine lists.list? h (fun bs _ => h.bytes? bs) fun lists => ?_
  refine lists.optional? rfl (fun b _ => b.ofJson?_toJson h) fun lists => ?_
  refine lists.flag? h fun lists => ?_
  refine lists.optional? rfl (fun e _ => e.ofJson?_toJson h) fun lists => ?_
  rfl

theorem EnumRule.ofJson?_toJson (h : Rearranges f) (r : EnumRule) :
    ofJson? (f r.toJson) = some r := by
  simp only [toJson, ErrorSpec.members, Json.opt_eq_present, Json.many_eq_present,
    Json.singleton_eq_present, ← Json.present_append, List.cons_append, List.nil_append]
  refine h.record rfl (by decide) fun _ lists => ?_
  refine lists.optional? rfl (fun n _ => h.word? n) fun lists => ?_
  refine lists.flag? h fun lists => ?_
  refine lists.list? h (fun n _ => h.word? n) fun lists => ?_
  refine lists.list? h (fun n _ => h.word? n) fun lists => ?_
  refine lists.optional? rfl (fun e _ => e.ofJson?_toJson h) fun lists => ?_
  rfl

theorem AnyRule.ofJson?_toJson (h : Rearranges f) (r : AnyRule) :
    ofJson? (f r.toJson) = some r := by
  simp only [toJson, ErrorSpec.members, Json.opt_eq_present, Json.many_eq_present,
    Json.singleton_eq_present, ← Json.present_append, List.cons_append, List.nil_append]
  refine h.record rfl (by decide) fun _ lists => ?_
  refine lists.flag? h fun lists => ?_
  refine lists.list? h (fun s _ => h.text? s) fun lists => ?_
  refine lists.list? h (fun s _ => h.text? s) fun lists => ?_
  refine lists.optional? rfl (fun e _ => e.ofJson?_toJson h) fun lists => ?_
  rfl

theorem DurationLiteral.ofJson?_toJson (h : Rearranges f) (d : DurationLiteral) :
    ofJson? (f d.toJson) = some d := by
  simp only [toJson, Json.singleton_eq_present, Json.cons_present]
  refine h.record rfl (by decide) fun _ lists => ?_
  refine lists.default? (h.word? d.seconds) fun lists => ?_
  refine lists.default? (h.word? d.nanos) fun lists => ?_
  rfl

theorem TimestampLiteral.ofJson?_toJson (h : Rearranges f) (t : TimestampLiteral) :
    ofJson? (f t.toJson) = some t := by
  simp only [toJson, Json.singleton_eq_present, Json.cons_present]
  refine h.record rfl (by decide) fun _ lists => ?_
  refine lists.default? (h.word? t.seconds) fun lists => ?_
  refine lists.default? (h.word? t.nanos) fun lists => ?_
  rfl

private theorem Bounds.ofRecord?_slots {α β : Type} {r : Json.Record} {slots : Json.Slots}
    {read : Json → Option α} {write : α → Json} {b : Bounds α} {next : Bounds α → Option β} {c : β}
    (lists : r.Lists f (("const", b.const.map write) :: ("lt", b.lt.map write) ::
      ("lte", b.lte.map write) :: ("gt", b.gt.map write) :: ("gte", b.gte.map write) :: slots))
    (empty : read .null = none) (reads : ∀ a, read (f (write a)) = some a)
    (rest : r.Lists f slots → next b = some c) : (ofRecord? r read >>= next) = some c := by
  simp only [ofRecord?, bind_assoc]
  refine lists.optional? empty (fun a _ => reads a) fun lists => ?_
  refine lists.optional? empty (fun a _ => reads a) fun lists => ?_
  refine lists.optional? empty (fun a _ => reads a) fun lists => ?_
  refine lists.optional? empty (fun a _ => reads a) fun lists => ?_
  refine lists.optional? empty (fun a _ => reads a) fun lists => ?_
  exact rest lists

theorem DurationRule.ofJson?_toJson (h : Rearranges f) (r : DurationRule) :
    ofJson? (f r.toJson) = some r := by
  simp only [toJson, Bounds.members, ErrorSpec.members, Json.opt_eq_present, Json.many_eq_present,
    Json.singleton_eq_present, ← Json.present_append, List.cons_append, List.nil_append]
  refine h.record rfl (by decide) fun _ lists => ?_
  refine lists.flag? h fun lists => ?_
  refine Bounds.ofRecord?_slots lists rfl (fun d => d.ofJson?_toJson h) fun lists => ?_
  refine lists.list? h (fun d _ => d.ofJson?_toJson h) fun lists => ?_
  refine lists.list? h (fun d _ => d.ofJson?_toJson h) fun lists => ?_
  refine lists.optional? rfl (fun e _ => e.ofJson?_toJson h) fun lists => ?_
  rfl

theorem TimestampRule.ofJson?_toJson (h : Rearranges f) (r : TimestampRule) :
    ofJson? (f r.toJson) = some r := by
  simp only [toJson, Bounds.members, ErrorSpec.members, Json.opt_eq_present,
    Json.singleton_eq_present, Json.cons_present, ← Json.present_append, List.cons_append,
    List.nil_append]
  refine h.record rfl (by decide) fun _ lists => ?_
  refine lists.flag? h fun lists => ?_
  refine Bounds.ofRecord?_slots lists rfl (fun t => t.ofJson?_toJson h) fun lists => ?_
  refine lists.flag? h fun lists => ?_
  refine lists.flag? h fun lists => ?_
  refine lists.optional? rfl (fun d _ => d.ofJson?_toJson h) fun lists => ?_
  refine lists.optional? rfl (fun e _ => e.ofJson?_toJson h) fun lists => ?_
  rfl

private theorem alternatives?_alternativesJson (h : Rearranges f) {α : Type}
    {read : Json → Option α}
    {write : α → Json} {rules : List α} (reads : ∀ r ∈ rules, read (f (write r)) = some r) :
    alternatives? read (f (alternativesJson write rules)) = some rules := by
  simp only [alternativesJson, Json.singleton_eq_present]
  refine h.record rfl (by decide) fun _ lists => ?_
  rw [← bind_pure (Json.Record.list? _ _ _)]
  exact lists.default? (h.list? reads) fun _ => rfl

section Nested

variable {ρ σ : Type}

def RepeatedRule.mapNested (write : ρ → σ) (r : RepeatedRule ρ) : RepeatedRule σ :=
  ⟨r.minItems, r.maxItems, r.unique, r.items.map write, r.ignoreEmpty, r.error⟩

def MapRule.mapNested (write : ρ → σ) (r : MapRule ρ) : MapRule σ :=
  ⟨r.minPairs, r.maxPairs, r.noSparse, r.keys.map write, r.values.map write, r.ignoreEmpty, r.error⟩

variable {nested : Json → Option ρ} {write : ρ → Json}

def RepeatedRule.slots (write : ρ → Json) (r : RepeatedRule ρ) : Json.Slots :=
  [("min_items", r.minItems.map Json.ofWord), ("max_items", r.maxItems.map Json.ofWord),
    ("unique", some (.bool r.unique)), ("items", r.items.map write),
    ("ignore_empty", some (.bool r.ignoreEmpty)), ("error", r.error.map ErrorSpec.toJson)]

def MapRule.slots (write : ρ → Json) (r : MapRule ρ) : Json.Slots :=
  [("min_pairs", r.minPairs.map Json.ofWord), ("max_pairs", r.maxPairs.map Json.ofWord),
    ("no_sparse", some (.bool r.noSparse)), ("keys", r.keys.map write),
    ("values", r.values.map write), ("ignore_empty", some (.bool r.ignoreEmpty)),
    ("error", r.error.map ErrorSpec.toJson)]

private theorem RepeatedRule.toJson_mapNested (r : RepeatedRule ρ) :
    (r.mapNested write).toJson = .obj (Json.present (r.slots write)) := by
  simp only [mapNested, toJson, slots, ErrorSpec.members, Json.opt_eq_present,
    Json.singleton_eq_present, ← Json.present_append, List.cons_append, List.nil_append,
    Option.map_id_fun, id]

private theorem MapRule.toJson_mapNested (r : MapRule ρ) :
    (r.mapNested write).toJson = .obj (Json.present (r.slots write)) := by
  simp only [mapNested, toJson, slots, ErrorSpec.members, Json.opt_eq_present,
    Json.singleton_eq_present, ← Json.present_append, List.cons_append, List.nil_append,
    Option.map_id_fun, id]

theorem RepeatedRule.ofJson?_toJson (h : Rearranges f) (empty : nested .null = none)
    {r : RepeatedRule ρ} (reads : ∀ n ∈ r.items, nested (f (write n)) = some n) :
    ofJson? nested (f (r.mapNested write).toJson) = some r := by
  rw [toJson_mapNested]
  refine h.record rfl (by decide) fun _ lists => ?_
  refine lists.optional? rfl (fun n _ => h.word? n) fun lists => ?_
  refine lists.optional? rfl (fun n _ => h.word? n) fun lists => ?_
  refine lists.flag? h fun lists => ?_
  refine lists.optional? empty reads fun lists => ?_
  refine lists.flag? h fun lists => ?_
  refine lists.optional? rfl (fun e _ => e.ofJson?_toJson h) fun lists => ?_
  rfl

theorem MapRule.ofJson?_toJson (h : Rearranges f) (empty : nested .null = none)
    {r : MapRule ρ} (keys : ∀ n ∈ r.keys, nested (f (write n)) = some n)
    (values : ∀ n ∈ r.values, nested (f (write n)) = some n) :
    ofJson? nested (f (r.mapNested write).toJson) = some r := by
  rw [toJson_mapNested]
  refine h.record rfl (by decide) fun _ lists => ?_
  refine lists.optional? rfl (fun n _ => h.word? n) fun lists => ?_
  refine lists.optional? rfl (fun n _ => h.word? n) fun lists => ?_
  refine lists.flag? h fun lists => ?_
  refine lists.optional? empty keys fun lists => ?_
  refine lists.optional? empty values fun lists => ?_
  refine lists.flag? h fun lists => ?_
  refine lists.optional? rfl (fun e _ => e.ofJson?_toJson h) fun lists => ?_
  rfl

private theorem RepeatedRule.get?_items (h : Rearranges f) (r : RepeatedRule ρ) :
    (f (r.mapNested write).toJson).get? "items" = (r.items.map write).map f := by
  rw [toJson_mapNested]
  exact h.get?_present (by simp [slots]) (by simp [slots])

private theorem MapRule.get?_keys (h : Rearranges f) (r : MapRule ρ) :
    (f (r.mapNested write).toJson).get? "keys" = (r.keys.map write).map f := by
  rw [toJson_mapNested]
  exact h.get?_present (by simp [slots]) (by simp [slots])

private theorem MapRule.get?_values (h : Rearranges f) (r : MapRule ρ) :
    (f (r.mapNested write).toJson).get? "values" = (r.values.map write).map f := by
  rw [toJson_mapNested]
  exact h.get?_present (by simp [slots]) (by simp [slots])

end Nested

private theorem isInteger_of_ne_float {k : NumericKind} (double : k ≠ .double)
    (float : k ≠ .float) :
    k.format.IsInteger := by
  cases k with
  | double => exact absurd rfl double
  | float => exact absurd rfl float
  | _ => trivial

private theorem ValueRules.ofPayload?_toJson {ρ : Type} (h : Rearranges f)
    (nested : Json → Option ρ)
    {v : ValueRules} (double : v.kind ≠ .numeric .double) (float : v.kind ≠ .numeric .float) :
    TypedRules.ofPayload? nested (f v.toJson) v.kind = some (.value v) := by
  cases v with
  | any rules =>
      exact congrArg (Option.map _) (alternatives?_alternativesJson h
        fun r (_ : r ∈ rules) => r.ofJson?_toJson h)
  | bool rules => exact congrArg (Option.map _) (rules.ofJson?_toJson h)
  | bytes rules =>
      exact congrArg (Option.map _) (alternatives?_alternativesJson h
        fun r (_ : r ∈ rules) => r.ofJson?_toJson h)
  | duration rules =>
      exact congrArg (Option.map _) (alternatives?_alternativesJson h
        fun r (_ : r ∈ rules) => r.ofJson?_toJson h)
  | enum rules =>
      exact congrArg (Option.map _) (alternatives?_alternativesJson h
        fun r (_ : r ∈ rules) => r.ofJson?_toJson h)
  | numeric k rules =>
      have integer : k.format.IsInteger :=
        isInteger_of_ne_float (fun same => double (congrArg RuleKind.numeric same))
          fun same => float (congrArg RuleKind.numeric same)
      exact congrArg (Option.map _) (alternatives?_alternativesJson h
        fun r (_ : r ∈ rules) => r.ofJson?_toJson h integer)
  | string rules =>
      exact congrArg (Option.map _) (alternatives?_alternativesJson h
        fun r (_ : r ∈ rules) => r.ofJson?_toJson h)
  | timestamp rules =>
      exact congrArg (Option.map _) (alternatives?_alternativesJson h
        fun r (_ : r ∈ rules) => r.ofJson?_toJson h)

private theorem alternativesJson_map {α β : Type} (write : β → Json) (g : α → β) (rules : List α) :
    alternativesJson write (rules.map g) = alternativesJson (fun r => write (g r)) rules := by
  rw [alternativesJson, alternativesJson, List.map_map]
  rfl

private theorem get?_rules (h : Rearranges f) {α : Type} (write : α → Json) (rules : List α) :
    (f (alternativesJson write rules)).get? "rules" =
      some (.arr (rules.map fun r => f (write r))) := by
  rw [alternativesJson, h.obj_singleton, h.arr, List.map_map]
  rfl

namespace TypedRules

section Payloads

variable {ρ σ : Type}

def mapNested (write : ρ → σ) : TypedRules ρ → TypedRules σ
  | value v => value v
  | repeated rules => repeated (rules.map (RepeatedRule.mapNested write))
  | map rules => map (rules.map (MapRule.mapNested write))

/-- The rule sets for items, keys and values, in the order of the alternatives. -/
def nested : TypedRules ρ → List ρ
  | value _ => []
  | repeated rules => rules.flatMap (·.items.toList)
  | map rules => rules.flatMap fun r => r.keys.toList ++ r.values.toList

variable {write : ρ → Json}

private theorem ofPayload?_payload (h : Rearranges f) {nested : Json → Option ρ}
    (empty : nested .null = none) {t : TypedRules ρ} (double : t.kind ≠ .numeric .double)
    (float : t.kind ≠ .numeric .float)
    (reads : ∀ n ∈ t.nested, nested (f (write n)) = some n) :
    ofPayload? nested (f (t.mapNested write).payload) t.kind = some t := by
  cases t with
  | value v => exact v.ofPayload?_toJson h nested double float
  | repeated rules =>
      have items : ∀ r ∈ rules, RepeatedRule.ofJson? nested
          (f (r.mapNested write).toJson) = some r := by
        intro r member
        apply RepeatedRule.ofJson?_toJson h empty
        intro n declared
        exact reads n (List.mem_flatMap.mpr ⟨r, member, Option.mem_toList.mpr declared⟩)
      simp only [kind, mapNested, payload, ofPayload?, alternativesJson_map,
        alternatives?_alternativesJson h items, Option.map_some]
  | map rules =>
      have entries : ∀ r ∈ rules, MapRule.ofJson? nested
          (f (r.mapNested write).toJson) = some r := by
        intro r member
        apply MapRule.ofJson?_toJson h empty
        · intro n declared
          have inside := List.mem_append_left r.values.toList (Option.mem_toList.mpr declared)
          exact reads n (List.mem_flatMap.mpr ⟨r, member, inside⟩)
        · intro n declared
          have inside := List.mem_append_right r.keys.toList (Option.mem_toList.mpr declared)
          exact reads n (List.mem_flatMap.mpr ⟨r, member, inside⟩)
      simp only [kind, mapNested, payload, ofPayload?, alternativesJson_map,
        alternatives?_alternativesJson h entries, Option.map_some]

private theorem nestedPayloads_payload (h : Rearranges f) (t : TypedRules ρ) :
    nestedPayloads t.kind (f (t.mapNested write).payload) = t.nested.map fun n => f (write n) := by
  cases t with
  | value v =>
      have none : nestedKeys v.kind = [] := by cases v <;> rfl
      simp only [kind, nestedPayloads, none, nested, List.filterMap_nil, List.map_nil]
      split
      · simp
      · rfl
  | repeated rules =>
      have declared (r : RepeatedRule ρ) :
          ["items"].filterMap (fun key => (f (r.mapNested write).toJson).get? key) =
            r.items.toList.map fun n => f (write n) := by
        cases items : r.items <;> simp [r.get?_items h, items]
      simp only [kind, mapNested, payload, nestedPayloads, alternativesJson_map, get?_rules h,
        nestedKeys, nested, List.flatMap_map, List.map_flatMap, declared]
  | map rules =>
      have declared (r : MapRule ρ) :
          ["keys", "values"].filterMap (fun key => (f (r.mapNested write).toJson).get? key) =
            (r.keys.toList ++ r.values.toList).map fun n => f (write n) := by
        cases keys : r.keys <;> cases values : r.values <;>
          simp [r.get?_keys h, r.get?_values h, keys, values]
      simp only [kind, mapNested, payload, nestedPayloads, alternativesJson_map, get?_rules h,
        nestedKeys, nested, List.flatMap_map, List.map_flatMap, declared]

end Payloads

theorem depth_lt_of_mem_nestedPayloads {kind : RuleKind} {payload j : Json}
    (member : j ∈ nestedPayloads kind payload) : j.depth < payload.depth := by
  unfold nestedPayloads at member
  split at member
  · rename_i alternatives found
    obtain ⟨alternative, listed, inside⟩ := List.mem_flatMap.mp member
    obtain ⟨key, _, held⟩ := List.mem_filterMap.mp inside
    have outer := Json.depth_lt_of_get? found
    have inner := Json.depth_lt_of_get? held
    have between := Json.depth_le_depthItems listed
    rw [Json.depth] at outer
    omega
  · exact absurd member List.not_mem_nil

/-- A payload is decoded to rules if these are read from it and every nested rule set is decoded. -/
theorem decodeWith_eq_ok {ρ : Type} {nested : Json → Except SchemaError ρ} {kind : RuleKind}
    {payload : Json} {t : TypedRules ρ}
    (decoded : ∀ j ∈ nestedPayloads kind payload, ∃ n, nested j = .ok n)
    (read : ofPayload? (fun j => (nested j).toOption) payload kind = some t) :
    decodeWith nested kind payload = .ok t := by
  have inside : (nestedPayloads kind payload).forM (fun j => discard (nested j)) = .ok () :=
    forM_eq_ok_iff.mpr fun j member => discard_eq_ok_iff.mpr (decoded j member)
  rw [decodeWith, inside, read]
  rfl

end TypedRules

namespace FieldRules

/-- No rules over floats, neither in the rule set itself nor in the rule sets inside it. -/
inductive FloatFree : FieldRules → Prop
  | intro (rules : FieldRules) (double : rules.kind? ≠ some (.numeric .double))
      (float : rules.kind? ≠ some (.numeric .float))
      (inside : ∀ t ∈ rules.typed, ∀ n ∈ t.nested, FloatFree n) : FloatFree rules

/-! What is written for a rule set, one case for each of its parts. -/

private theorem writeNested_eq_map (rules : Option FieldRules) :
    writeNested rules = rules.map toJson := by
  cases rules <;> rfl

private theorem writeItems_eq_map (rules : List (RepeatedRule FieldRules)) :
    writeItems rules = rules.map (RepeatedRule.mapNested toJson) := by
  induction rules with
  | nil => rfl
  | cons r rest ih => rw [writeItems, ih, writeNested_eq_map]; rfl

private theorem writeEntries_eq_map (rules : List (MapRule FieldRules)) :
    writeEntries rules = rules.map (MapRule.mapNested toJson) := by
  induction rules with
  | nil => rfl
  | cons r rest ih => rw [writeEntries, ih, writeNested_eq_map, writeNested_eq_map]; rfl

def members (f : Json → Json) (rules : FieldRules) : List Json.Member :=
  (rules.message.map fun m => (messageKey, f m.toJson)).toList ++
    (rules.typed.map fun t => (t.kind.keyword, f (t.mapNested toJson).payload)).toList

private theorem toJson_eq (rules : FieldRules) : rules.toJson = .obj (rules.members id) := by
  obtain ⟨message, typed⟩ := rules
  cases typed with
  | none => cases message <;> rfl
  | some t =>
      cases t with
      | value v => cases message <;> rfl
      | repeated rules =>
          rw [toJson, writeItems_eq_map]
          cases message <;> rfl
      | map rules =>
          rw [toJson, writeEntries_eq_map]
          cases message <;> rfl

private theorem map_members (f : Json → Json) (rules : FieldRules) :
    (rules.members id).map (Prod.map id f) = rules.members f := by
  obtain ⟨_ | message, _ | t⟩ := rules <;> rfl

theorem keyword_ne_message (kind : RuleKind) : kind.keyword ≠ messageKey := by
  cases kind with
  | numeric k => cases k <;> decide
  | _ => decide

private theorem members_nodup (rules : FieldRules) : (Json.keys (rules.members id)).Nodup := by
  obtain ⟨_ | message, _ | t⟩ := rules <;> simp [members, Json.keys, (keyword_ne_message _).symm]

private theorem find?_members {rules : FieldRules} {t : TypedRules FieldRules}
    (typed : rules.typed = some t) : Dictionary.find? t.kind.keyword (rules.members id) =
      some (t.mapNested toJson).payload := by
  apply Dictionary.find?_of_mem rules.members_nodup
  simp [members, typed]

/-! Reading it again. -/

variable {nested : Json → Except SchemaError FieldRules}

private theorem addMember_message (h : Rearranges f) (declared : FieldRules)
    (message : MessageRules) :
    addMember nested declared (messageKey, f message.toJson) =
      .ok { declared with message := some message } := by
  rw [addMember, if_pos rfl, message.ofJson?_toJson h]

private theorem addMember_typed {t : TypedRules FieldRules} {payload : Json}
    (decoded : TypedRules.decodeWith nested t.kind payload = .ok t)
    (message : Option MessageRules) :
    addMember nested ⟨message, none⟩ (t.kind.keyword, payload) = .ok ⟨message, some t⟩ := by
  rw [addMember, if_neg (keyword_ne_message t.kind), RuleKind.ofKeyword?_keyword]
  simp only [kind?, Option.map_none, decoded]
  rfl

/-- The two members of a rule set add up to it in either order. -/
private theorem decodeWith_perm_members (h : Rearranges f) {rules : FieldRules}
    {listed : List Json.Member} (perm : listed.Perm (rules.members f)) (decoded : ∀ t ∈ rules.typed,
      TypedRules.decodeWith nested t.kind (f (t.mapNested toJson).payload) = .ok t) :
    decodeWith nested (.obj listed) = .ok rules := by
  obtain ⟨message, typed⟩ := rules
  rw [decodeWith]
  cases message with
  | none =>
      cases typed with
      | none =>
          rw [List.perm_nil.mp perm]
          rfl
      | some t =>
          rw [List.perm_singleton.mp perm, List.foldlM_cons, addMember_typed (decoded t rfl)]
          rfl
  | some message =>
      cases typed with
      | none =>
          rw [List.perm_singleton.mp perm, List.foldlM_cons, addMember_message h]
          rfl
      | some t =>
          have added := addMember_typed (decoded t rfl)
          rcases List.perm_pair.mp perm with rfl | rfl
          · rw [List.foldlM_cons, addMember_message h]
            exact congrArg (· >>= pure) (added (some message))
          · rw [List.foldlM_cons, added none]
            exact congrArg (· >>= pure) (addMember_message h ⟨none, some t⟩ message)

private theorem decodeWith_toJson (h : Rearranges f) {rules : FieldRules}
    (decoded : ∀ t ∈ rules.typed,
      TypedRules.decodeWith nested t.kind (f (t.mapNested toJson).payload) = .ok t) :
    decodeWith nested (f rules.toJson) = .ok rules := by
  obtain ⟨listed, written, perm⟩ := h.obj (rules.members id) rules.members_nodup
  rw [map_members] at perm
  rw [toJson_eq, written]
  exact decodeWith_perm_members h perm decoded

private theorem depth_nested_lt (h : Rearranges f) {rules : FieldRules} {t : TypedRules FieldRules}
    (typed : rules.typed = some t) {n : FieldRules} (member : n ∈ t.nested) :
    (f n.toJson).depth < (f rules.toJson).depth := by
  have written : f n.toJson ∈
      TypedRules.nestedPayloads t.kind (f (t.mapNested toJson).payload) := by
    rw [TypedRules.nestedPayloads_payload h]
    exact List.mem_map_of_mem member
  have inner := TypedRules.depth_lt_of_mem_nestedPayloads written
  have outer := h.depth_lt_of_find? rules.members_nodup (find?_members typed)
  rw [toJson_eq rules]
  exact inner.trans outer

private theorem decodeWithin_toJson (h : Rearranges f) {levels : Nat} {rules : FieldRules}
    (floatFree : rules.FloatFree) (deep : (f rules.toJson).depth ≤ levels) :
    decodeWithin levels (f rules.toJson) = .ok rules := by
  induction levels generalizing rules with
  | zero => exact absurd deep (Nat.not_le.mpr (Json.depth_pos _))
  | succ levels ih =>
      obtain ⟨_, double, float, inside⟩ := floatFree
      refine decodeWith_toJson h fun t typed => ?_
      have kind : rules.kind? = some t.kind := congrArg (Option.map TypedRules.kind) typed
      rw [kind, ne_eq, Option.some_inj] at double float
      have read : ∀ n ∈ t.nested, decodeWithin levels (f n.toJson) = .ok n := by
        intro n member
        have shallower := depth_nested_lt h typed member
        exact ih (inside t typed n member) (by omega)
      apply TypedRules.decodeWith_eq_ok
      · rw [TypedRules.nestedPayloads_payload h]
        exact List.forall_mem_map.mpr fun n member => ⟨n, read n member⟩
      · have empty : (decodeWithin levels .null).toOption = none := by cases levels <;> rfl
        apply TypedRules.ofPayload?_payload h empty double float
        intro n member
        rw [read n member]
        rfl

/-- A rule set without floats is decoded from what is written for it, be its members in the order
of the fields or sorted. -/
theorem decode_undoes_encoding {rules : FieldRules} (floatFree : rules.FloatFree) :
    decode rules.toJson = .ok rules ∧ decode rules.toJson.canonical = .ok rules :=
  ⟨decodeWithin_toJson Json.rearranges_id floatFree (Nat.le_refl _),
    decodeWithin_toJson Json.rearranges_canonical floatFree (Nat.le_refl _)⟩

/-- Rules for a map of lists. -/
def catalogueRules : FieldRules where
  message := some {
    required := true
    error := some { method := "missing", code := some ⟨-7, by decide, by decide⟩ } }
  typed := some (.map [
    { minPairs := some ⟨2, by decide, by decide⟩
      keys := some { typed := some (.value (.numeric .uint64
        [{ bounds := { gt := some ⟨18446744073709551614, by decide, by decide⟩ } }])) }
      values := some { typed := some (.repeated
        [{ unique := true
           items := some { typed := some (.value (.string
             [{ format := some (.pattern .headerName), denied := ["", "a\"b"] }])) } }]) } },
    { noSparse := true
      ignoreEmpty := true
      error := some { method := "sparse", message := some "" } }])

private theorem floatFree_of_value {rules : FieldRules} {v : ValueRules}
    (typed : rules.typed = some (.value v))
    (double : v.kind ≠ .numeric .double) (float : v.kind ≠ .numeric .float) : rules.FloatFree := by
  have kind : rules.kind? = some v.kind := congrArg (Option.map TypedRules.kind) typed
  refine .intro rules ?_ ?_ ?_
  · rwa [kind, ne_eq, Option.some_inj]
  · rwa [kind, ne_eq, Option.some_inj]
  · intro t declared n member
    rw [typed] at declared
    cases declared
    exact absurd member List.not_mem_nil

private theorem catalogueRules_floatFree : catalogueRules.FloatFree := by
  refine .intro _ (by decide) (by decide) fun t declared n member => ?_
  cases declared
  rcases List.mem_cons.mp member with rfl | member
  · exact floatFree_of_value rfl (by decide) (by decide)
  · rw [List.mem_singleton.mp member]
    refine .intro _ (by decide) (by decide) fun t declared n member => ?_
    cases declared
    rw [List.mem_singleton.mp member]
    exact floatFree_of_value rfl (by decide) (by decide)

theorem catalogueRules_decoded :
    catalogueRules.FloatFree ∧ decode catalogueRules.toJson = .ok catalogueRules ∧
      decode catalogueRules.toJson.canonical = .ok catalogueRules :=
  ⟨catalogueRules_floatFree, decode_undoes_encoding catalogueRules_floatFree⟩

end FieldRules

end ProtoRules
