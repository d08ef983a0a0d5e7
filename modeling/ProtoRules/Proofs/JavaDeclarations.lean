import ProtoRules.Proofs.JavaEntries

/-!
Declarations of Java constants: their names, and which of them are for rules and which are errors.
What is declared for a position is told from its entries.
-/

namespace ProtoRules.Java

namespace Constant

def ruleNames (ks : List Constant) : List String :=
  (ks.filter (·.type != errorType)).map Constant.name

theorem ruleNames_append (ks ls : List Constant) :
    ruleNames (ks ++ ls) = ruleNames ks ++ ruleNames ls := by
  rw [ruleNames, List.filter_append, List.map_append]
  rfl

theorem ruleNames_flatMap {α : Type} (xs : List α) (f : α → List Constant) :
    ruleNames (xs.flatMap f) = xs.flatMap fun x => ruleNames (f x) := by
  induction xs with
  | nil => rfl
  | cons x xs ih => rw [List.flatMap_cons, ruleNames_append, ih, List.flatMap_cons]

theorem ruleNames_error (c : Context) (alternative : Nat) (own : Option ErrorSpec) :
    ruleNames (error c alternative own) = [] := by
  unfold error
  split
  · cases own <;> rfl
  · rfl

theorem ruleNames_required (c : Context) (rules : Option MessageRules) :
    ruleNames (required c rules) = [] := by
  unfold required
  split
  · split <;> rfl
  · rfl

/-- Constants for certain rules, none of them an error. -/
structure ForRules (ks : List Constant) (name : String → String) (labels : List String) : Prop where
  names : ks.map Constant.name = labels.map name
  types : ∀ k ∈ ks, k.type ≠ errorType

namespace ForRules

variable {α : Type} {ks ls : List Constant} {name : String → String} {labels rest : List String}

theorem nil (name : String → String) : ForRules [] name [] :=
  ⟨rfl, fun _ member => absurd member List.not_mem_nil⟩

theorem append (first : ForRules ks name labels) (second : ForRules ls name rest) :
    ForRules (ks ++ ls) name (labels ++ rest) where
  names := by rw [List.map_append, first.names, second.names, List.map_append]
  types := List.forall_mem_append.mpr ⟨first.types, second.types⟩

private theorem ruleNames_eq (rules : ForRules ks name labels) :
    ruleNames ks = labels.map name := by
  have all : ks.filter (·.type != errorType) = ks :=
    List.filter_eq_self.mpr fun k member => bne_iff_ne.mpr (rules.types k member)
  rw [ruleNames, all, rules.names]

theorem declared {type : String} (apart : type ≠ errorType) (text : α → String)
    (rules : List (String × Option α)) :
    ForRules (rules.flatMap fun (rule, value) =>
      (value.map fun v => ⟨type, name rule, text v⟩).toList) name (declaredLabels rules) := by
  induction rules with
  | nil => exact nil name
  | cons rule rules ih =>
      obtain ⟨label, value⟩ := rule
      have one : ForRules (value.map fun v => ⟨type, name label, text v⟩).toList name
          (value.map fun _ => label).toList := by
        cases value with
        | none => exact nil name
        | some v => exact ⟨rfl, List.forall_mem_singleton.mpr apart⟩
      exact one.append ih

theorem single (name : String → String) {type : String} (apart : type ≠ errorType)
    (text : α → String) (label : String) (value : Option α) :
    ForRules (value.map fun v => ⟨type, name label, text v⟩).toList name
      (declaredLabels [(label, value)]) := by
  have one : ForRules _ name _ := declared apart text [(label, value)]
  simpa using one

theorem bounds {type : String} (apart : type ≠ errorType) (text : α → String) (b : Bounds α) :
    ForRules (Constant.bounds type name text b) name (boundLabels b) := by
  have all : ForRules _ name _ := declared apart text
    [("Const", b.const), ("Lt", b.lt), ("Lte", b.lte), ("Gt", b.gt), ("Gte", b.gte)]
  have split : boundLabels b = declaredLabels
      [("Const", b.const), ("Lt", b.lt), ("Lte", b.lte), ("Gt", b.gt), ("Gte", b.gte)] := by
    simp [boundLabels, declaredLabels]
  rw [split]
  exact all

theorem array (type label : String) (items : List String) :
    ForRules (Constant.array type (name label) items) name
      (if items.isEmpty then [] else [label]) := by
  have brackets : type ++ "[]" ≠ errorType := by
    intro same
    have last := congrArg (fun s => s.toList.getLast?) same
    simp [errorType] at last
  cases items with
  | nil => exact nil name
  | cons item items => exact ⟨rfl, List.forall_mem_singleton.mpr brackets⟩

theorem sets (type : String) (text : α → String) (allowed denied : List α) :
    ForRules (Constant.sets type name text allowed denied) name (setLabels allowed denied) := by
  have both : ForRules _ name _ := (array type "In" (allowed.map text)).append
    (array type "NotIn" (denied.map text))
  simpa [setLabels, Constant.sets] using both

theorem pattern (name : String → String) (p : Option String) :
    ForRules (Constant.pattern (name "Pattern") p) name (declaredLabels [("Pattern", p)]) :=
  single name (by decide) _ "Pattern" p

end ForRules

end Constant

open Constant

private theorem partConstants_forRules (name : String → String) (r : BytesRule) :
    ForRules (partConstants name r) name (partLabels r) :=
  .declared (by decide) bytes
    [("Prefix", r.startsWith), ("Contains", r.contains), ("Suffix", r.endsWith)]

/-- Constants of certain marks, each of which is there once. -/
structure Marked (c : Context) (ms : List Mark) (ks : List Constant) : Prop where
  names : ks.map Constant.name = ms.map (·.name c)
  proper : ∀ m ∈ ms, m.Proper
  distinct : ms.Nodup

namespace Marked

variable {c : Context} {ms ns : List Mark} {ks ls : List Constant}

theorem nil (c : Context) : Marked c [] [] :=
  ⟨rfl, fun _ member => absurd member List.not_mem_nil, List.nodup_nil⟩

theorem append (first : Marked c ms ks) (second : Marked c ns ls) (apart : ms.Disjoint ns) :
    Marked c (ms ++ ns) (ks ++ ls) where
  names := by rw [List.map_append, first.names, second.names, List.map_append]
  proper := List.forall_mem_append.mpr ⟨first.proper, second.proper⟩
  distinct := first.distinct.append second.distinct apart

theorem congr {d : Context} (marked : Marked d ms ks) (field : d.field.name = c.field.name)
    (suffix : d.suffix = c.suffix) : Marked c ms ks where
  names := by
    rw [marked.names]
    refine List.map_congr_left fun m _ => ?_
    rw [Mark.name, Mark.name, field, suffix]
  proper := marked.proper
  distinct := marked.distinct

theorem nodup (marked : Marked c ms ks) : (ks.map Constant.name).Nodup := by
  rw [marked.names]
  refine marked.distinct.map_on fun m mMember n nMember same => ?_
  exact Mark.name_injective (marked.proper m mMember) (marked.proper n nMember) same

private theorem exists_mark (marked : Marked c ms ks) {name : String}
    (member : name ∈ ks.map Constant.name) : ∃ m ∈ ms, m.name c = name := by
  rw [marked.names] at member
  exact List.mem_map.mp member

theorem disjoint {d : Context} (first : Marked c ms ks) (second : Marked d ns ls)
    (field : c.field.name = d.field.name) (apart : c.suffix ≠ d.suffix) :
    (ks.map Constant.name).Disjoint (ls.map Constant.name) := by
  intro name inFirst inSecond
  obtain ⟨m, mMember, rfl⟩ := first.exists_mark inFirst
  obtain ⟨n, nMember, same⟩ := second.exists_mark inSecond
  exact apart (Mark.suffix_eq_of_name_eq field (first.proper m mMember) (second.proper n nMember)
    same.symm)

end Marked

/-- What is declared for the alternatives of a position. -/
structure Declares (c : Context) (es : List Entry) (ks : List Constant) : Prop where
  rules : ruleNames ks = entryNames c es
  marks : Marked c (entryMarks c.ownsErrors es) ks
  errors : c.ownsErrors = true → ∀ i e spec, es[i]? = some e → e.error = some spec →
    ⟨errorType, errorName c i, errorCall c.errorBase spec⟩ ∈ ks

private theorem names_error (c : Context) (alternative : Nat) (own : Option ErrorSpec) :
    (error c alternative own).map Constant.name =
      (if c.ownsErrors then (own.map fun _ => Mark.error alternative).toList else []).map
        (·.name c) := by
  cases owns : c.ownsErrors with
  | false => simp [error, owns]
  | true => cases own <;> simp [error, owns, Mark.name_error owns]

theorem alternatives_declares {α : Type} {c : Context} {rules : List α}
    {part : α → Nat → List Constant} {entry : α → Entry}
    (labelled : ∀ r ∈ rules, (entry r).labels.Sublist ruleLabels)
    (each : ∀ r i, ForRules (part r i) (constantName c · i) (entry r).labels) :
    Declares c (rules.map entry)
      (alternatives rules fun r i => part r i ++ error c i (entry r).error) where
  rules := by
    rw [alternatives, ruleNames_flatMap, entryNames_map]
    congr 1
    funext ⟨r, i⟩
    rw [ruleNames_append, (each r i).ruleNames_eq, ruleNames_error, List.append_nil]
    rfl
  marks := by
    have labelled : ∀ e ∈ rules.map entry, e.labels.Sublist ruleLabels :=
      List.forall_mem_map.mpr labelled
    refine ⟨?_, fun m => proper_of_mem_entryMarks labelled, entryMarks_nodup labelled⟩
    rw [alternatives, List.map_flatMap, entryMarks_map, List.map_flatMap]
    congr 1
    funext ⟨r, i⟩
    simp only [List.map_append, (each r i).names, names_error, Entry.marks, List.map_map]
    rfl
  errors := by
    intro owns i e spec position own
    rw [List.getElem?_map] at position
    obtain ⟨r, there, rfl⟩ := Option.map_eq_some_iff.mp position
    have member : (r, i) ∈ rules.zipIdx := List.mk_mem_zipIdx_iff_getElem?.mpr there
    refine List.mem_flatMap.mpr ⟨(r, i), member, List.mem_append_right _ ?_⟩
    simp [error, owns, own]

theorem valueConstants_declares {schema : Schema} {c : Context} {v : ValueRules}
    {ks : List Constant} (written : valueConstants schema c v = .ok ks) :
    Declares c (entries v) ks := by
  have labelled : ∀ e ∈ entries v, e.labels.Sublist ruleLabels := labels_sublist
  unfold valueConstants at written
  cases v with
  | any rules =>
      cases written
      exact alternatives_declares (List.forall_mem_map.mp labelled) fun r i => .sets _ _ _ _
  | bool r =>
      cases written
      have one : Declares c ([r].map fun r => ⟨[], r.error⟩)
          (alternatives [r] fun r i => [] ++ error c i r.error) :=
        alternatives_declares (fun _ _ => List.nil_sublist _) fun _ _ => .nil _
      simpa [alternatives, entries] using one
  | bytes rules =>
      cases written
      refine alternatives_declares (List.forall_mem_map.mp labelled) fun r i => ?_
      refine .append (.append (.append ?_ (.sets _ _ _ _)) (.pattern (constantName c · i) _)) ?_
      · exact .single (constantName c · i) (by decide) byteString "Const" r.const
      · exact partConstants_forRules _ r
  | duration rules =>
      cases written
      refine alternatives_declares (List.forall_mem_map.mp labelled) fun r i => ?_
      exact .append (.bounds (by decide) _ _) (.sets _ _ _ _)
  | enum rules =>
      simp only [bind_eq_ok_iff, pure_eq_ok_iff] at written
      obtain ⟨type, _, rfl⟩ := written
      exact alternatives_declares (List.forall_mem_map.mp labelled) fun r i => .sets _ _ _ _
  | numeric k rules =>
      cases written
      refine alternatives_declares (List.forall_mem_map.mp labelled) fun r i => ?_
      have apart : boxed k ≠ errorType := by cases k <;> decide
      exact .append (.bounds apart _ _) (.sets _ _ _ _)
  | string rules =>
      cases written
      refine alternatives_declares (List.forall_mem_map.mp labelled) fun r i => ?_
      exact .append (.sets _ _ _ _) (.pattern (constantName c · i) _)
  | timestamp rules =>
      cases written
      refine alternatives_declares (List.forall_mem_map.mp labelled) fun r i => ?_
      have apart : durationType ≠ errorType := by decide
      refine .append (.bounds (by decide) _ _) ?_
      exact .single (constantName c · i) apart duration "Within" r.within

end ProtoRules.Java
