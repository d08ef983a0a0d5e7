import Mathlib.Data.List.Flatten
import Mathlib.Data.List.Forall2
import Mathlib.Data.List.Perm.Subperm
import ProtoRules.Proofs.CheckedContexts
import ProtoRules.Proofs.MergedAlternatives
import ProtoRules.Proofs.Outlines

/-!
What acceptance does not depend on. Alternatives may come in any order and any of them may be left
out; fields, oneofs and messages may come in any order.
-/

namespace ProtoRules

variable {α : Type} {t : Exclusions}

namespace Exclusions.Admits

private theorem subperm {names kept : List String} (admitted : t.Admits names)
    (some : kept.Subperm names) : t.Admits kept := by
  obtain ⟨listed, perm, sublist⟩ := some
  exact (perm.pairwise_iff fun {_ _} allowed => symm allowed).mp (admitted.sublist sublist)

private theorem flatMap_subperm {names : α → List String} {rules kept : List α}
    (admitted : t.Admits (rules.flatMap names)) (some : kept.Subperm rules) :
    t.Admits (kept.flatMap names) := by
  obtain ⟨listed, perm, sublist⟩ := some
  exact admitted.subperm ⟨_, perm.flatMap_right names, sublist.flatMap names⟩

end Exclusions.Admits

private theorem tested_of_subperm {Valid : α → Prop} {names : α → List String} {rules kept : List α}
    (some : kept.Subperm rules)
    (accepted : (∀ r ∈ rules, Valid r) ∧ t.Admits (rules.flatMap names)) :
    (∀ r ∈ kept, Valid r) ∧ t.Admits (kept.flatMap names) :=
  ⟨fun r member => accepted.1 r (some.subset member), accepted.2.flatMap_subperm some⟩

namespace Bounds

variable {β : Type}

private theorem PartOf.declared_subset {b whole : Bounds β} (part : b.PartOf whole) :
    b.declared ⊆ whole.declared := by
  intro name declared
  rw [mem_declared_iff] at declared ⊢
  obtain ⟨value, set⟩ := Option.isSome_iff_exists.mp declared
  exact Option.isSome_of_eq_some (part name value set)

private theorem comparedNames_alone (b : Bounds β) : comparedNames 0 0 b = b.declared := by
  simp [comparedNames, named]

theorem PartOf.checkNums_eq_ok [Numeral β] {b whole : Bounds β} (part : b.PartOf whole)
    (accepted : checkNums 0 0 whole = .ok ()) : checkNums 0 0 b = .ok () := by
  rw [checkNums_eq_ok_iff] at accepted ⊢
  obtain ⟨admitted, fits⟩ := accepted
  refine ⟨?_, Comparison.rangeFits_of_partOf part admitted fits⟩
  rw [comparedNames_alone, Exclusions.admits_iff_of_nodup (declared_nodup _)] at admitted ⊢
  intro a aDeclared b bDeclared
  exact admitted a (part.declared_subset aDeclared) b (part.declared_subset bDeclared)

private theorem mergeAll_partOf_of_subset {bs kept : List (Bounds β)}
    (disjoint : bs.Pairwise fun a b => a.declared.Disjoint b.declared) (some : kept ⊆ bs) :
    (mergeAll kept).PartOf (mergeAll bs) := by
  intro name value set
  rw [mergeAll_rule?] at set
  obtain ⟨b, member, set⟩ := List.exists_of_findSome?_eq_some set
  exact partOf_mergeAll disjoint b (some member) name value set

theorem disjoint_of_admits {names : α → List String} {bounds : α → Bounds β}
    (within : ∀ r, (bounds r).declared ⊆ names r) {rules : List α}
    (admitted : t.Admits (rules.flatMap names)) :
    (rules.map bounds).Pairwise fun a b => a.declared.Disjoint b.declared := by
  refine List.pairwise_map.mpr ((List.pairwise_flatMap.mp admitted).2.imp ?_)
  intro a b apart name first second
  exact (apart name (within a first) name (within b second)).ne rfl

/-- The bounds of some of the alternatives, whatever their order, fit each other if those of all
alternatives do, for no bound is declared twice. -/
private theorem checkNums_mergeAll_of_subset [Numeral β] {names : α → List String}
    {bounds : α → Bounds β}
    (within : ∀ r, (bounds r).declared ⊆ names r) {rules kept : List α} (some : kept ⊆ rules)
    (admitted : t.Admits (rules.flatMap names))
    (accepted : checkNums 0 0 (mergeAll (rules.map bounds)) = .ok ()) :
    checkNums 0 0 (mergeAll (kept.map bounds)) = .ok () :=
  (mergeAll_partOf_of_subset (disjoint_of_admits within admitted)
    (List.map_subset bounds some)).checkNums_eq_ok accepted

end Bounds

/-- Rules of the same kind with some of the alternatives, in any order. -/
inductive TypedRules.SomeOf : TypedRules FieldRules → TypedRules FieldRules → Prop
  | any {kept rules : List AnyRule} (some : kept.Subperm rules) :
      SomeOf (.value (.any kept)) (.value (.any rules))
  | bytes {kept rules : List BytesRule} (some : kept.Subperm rules) :
      SomeOf (.value (.bytes kept)) (.value (.bytes rules))
  | duration {kept rules : List DurationRule} (some : kept.Subperm rules) :
      SomeOf (.value (.duration kept)) (.value (.duration rules))
  | enum {kept rules : List EnumRule} (some : kept.Subperm rules) :
      SomeOf (.value (.enum kept)) (.value (.enum rules))
  | numeric {k : NumericKind} {kept rules : List (NumericRule (Number k.format))}
      (some : kept.Subperm rules) :
      SomeOf (.value (.numeric k kept)) (.value (.numeric k rules))
  | string {kept rules : List StringRule} (some : kept.Subperm rules) :
      SomeOf (.value (.string kept)) (.value (.string rules))
  | timestamp {kept rules : List TimestampRule} (some : kept.Subperm rules) :
      SomeOf (.value (.timestamp kept)) (.value (.timestamp rules))
  | repeated {kept rules : List (RepeatedRule FieldRules)} (some : kept.Subperm rules) :
      SomeOf (.repeated kept) (.repeated rules)
  | map {kept rules : List (MapRule FieldRules)} (some : kept.Subperm rules) :
      SomeOf (.map kept) (.map rules)

section Values

variable {schema : Schema} {inject : Bool}

private theorem checkNumeric_of_subperm [Numeral α] {kind : String}
    {kept rules : List (NumericRule α)}
    (some : kept.Subperm rules) (accepted : checkNumeric kind inject rules = .ok ()) :
    checkNumeric kind inject kept = .ok () := by
  rw [checkNumeric_eq_ok_iff] at accepted ⊢
  obtain ⟨tested, admitted, together⟩ := accepted
  have within : ∀ r : NumericRule α, r.bounds.declared ⊆ r.declared := fun r name declared =>
    List.mem_append_left _ (List.mem_append_left _ declared)
  exact ⟨fun r member => tested r (some.subset member), admitted.flatMap_subperm some,
    Bounds.checkNums_mergeAll_of_subset within some.subset admitted together⟩

private theorem checkDuration_of_subperm {kept rules : List DurationRule}
    (some : kept.Subperm rules)
    (accepted : checkDuration inject rules = .ok ()) : checkDuration inject kept = .ok () := by
  rw [checkDuration_eq_ok_iff] at accepted ⊢
  obtain ⟨tested, admitted, together⟩ := accepted
  have within : ∀ r : DurationRule, r.nanoseconds.declared ⊆ r.declared := by
    intro r name declared
    rw [DurationRule.nanoseconds, Bounds.map_declared] at declared
    exact List.mem_append_left _ (List.mem_append_left _ (List.mem_append_right _ declared))
  exact ⟨fun r member => tested r (some.subset member), admitted.flatMap_subperm some,
    Bounds.checkNums_mergeAll_of_subset within some.subset admitted together⟩

theorem TimestampRule.nanoseconds_declared_subset (r : TimestampRule) :
    r.nanoseconds.declared ⊆ r.declared := by
  intro name declared
  rw [nanoseconds, Bounds.map_declared] at declared
  simp only [TimestampRule.declared, List.mem_append]
  exact .inl (.inl (.inl (.inr declared)))

private theorem checkTimestamp_of_subperm {kept rules : List TimestampRule}
    (some : kept.Subperm rules)
    (accepted : checkTimestamp inject rules = .ok ()) : checkTimestamp inject kept = .ok () := by
  rw [checkTimestamp_eq_ok_iff] at accepted ⊢
  obtain ⟨tested, admitted, together⟩ := accepted
  exact ⟨fun r member => tested r (some.subset member), admitted.flatMap_subperm some,
    Bounds.checkNums_mergeAll_of_subset TimestampRule.nanoseconds_declared_subset some.subset
      admitted together⟩

private theorem checkValueRules_of_someOf {element : ElementType} {v w : ValueRules}
    (part : TypedRules.SomeOf (.value v) (.value w))
    (accepted : checkValueRules schema element inject w = .ok ()) :
    checkValueRules schema element inject v = .ok () := by
  cases part with
  | any some =>
      exact checkAny_eq_ok_iff.mpr (tested_of_subperm some (checkAny_eq_ok_iff.mp accepted))
  | bytes some =>
      exact checkBytes_eq_ok_iff.mpr (tested_of_subperm some (checkBytes_eq_ok_iff.mp accepted))
  | duration some => exact checkDuration_of_subperm some accepted
  | enum some =>
      exact checkEnum_eq_ok_iff.mpr (tested_of_subperm some (checkEnum_eq_ok_iff.mp accepted))
  | numeric some => exact checkNumeric_of_subperm some accepted
  | string some =>
      exact checkString_eq_ok_iff.mpr (tested_of_subperm some (checkString_eq_ok_iff.mp accepted))
  | timestamp some => exact checkTimestamp_of_subperm some accepted

private theorem checkRepeated_of_subperm {element : ElementType}
    {kept rules : List (RepeatedRule FieldRules)} (some : kept.Subperm rules)
    (accepted : checkRepeated schema element inject rules = .ok ()) :
    checkRepeated schema element inject kept = .ok () :=
  checkRepeated_eq_ok_iff.mpr (tested_of_subperm some (checkRepeated_eq_ok_iff.mp accepted))

private theorem checkMap_of_subperm {key value : ElementType}
    {kept rules : List (MapRule FieldRules)}
    (some : kept.Subperm rules) (accepted : checkMap schema key value inject rules = .ok ()) :
    checkMap schema key value inject kept = .ok () :=
  checkMap_eq_ok_iff.mpr (tested_of_subperm some (checkMap_eq_ok_iff.mp accepted))

end Values

section Positions

variable {schema : Schema} {shape : Shape} {message : Option MessageRules}
  {u t : TypedRules FieldRules} {inject : Bool}

private theorem TypedRules.SomeOf.kind_eq (part : u.SomeOf t) : u.kind = t.kind := by
  cases part <;> rfl

/-- The rest of a rule set is tested alike whichever alternatives there are. -/
private theorem checkPosition_of_someOf {typed : TypedRules FieldRules → Verdict}
    (part : u.SomeOf t) (each : typed t = .ok () → typed u = .ok ())
    (accepted : checkPosition shape ⟨message, some t⟩ inject typed = .ok ()) :
    checkPosition shape ⟨message, some u⟩ inject typed = .ok () := by
  rw [checkPosition_eq_ok_iff] at accepted ⊢
  obtain ⟨others, tested⟩ := accepted
  refine ⟨others, ?_⟩
  rintro _ ⟨⟩
  obtain ⟨fits, passed⟩ := tested t rfl
  exact ⟨part.kind_eq ▸ fits, each passed⟩

private theorem checkRules_of_someOf (part : u.SomeOf t)
    (accepted : checkRules schema shape ⟨message, some t⟩ inject = .ok ()) :
    checkRules schema shape ⟨message, some u⟩ inject = .ok () := by
  cases shape with
  | single element =>
      rw [checkRules, checkElement] at accepted ⊢
      refine checkPosition_of_someOf part (fun passed => ?_) accepted
      cases part with
      | repeated some => rfl
      | map some => rfl
      | _ some => exact checkValueRules_of_someOf (by constructor; exact some) passed
  | repeated element =>
      rw [checkRules] at accepted ⊢
      refine checkPosition_of_someOf part (fun passed => ?_) accepted
      cases part with
      | repeated some => exact checkRepeated_of_subperm some passed
      | _ => rfl
  | map key value =>
      rw [checkRules] at accepted ⊢
      refine checkPosition_of_someOf part (fun passed => ?_) accepted
      cases part with
      | map some => exact checkMap_of_subperm some passed
      | _ => rfl

end Positions

/-- A message with the same fields and oneofs in another order. -/
structure Message.Rearranged (m n : Message) : Prop where
  name : m.name = n.name
  extensions : m.extensions = n.extensions
  fields : m.fields.Perm n.fields
  oneofs : m.oneofs.Perm n.oneofs

/-- A file with the same messages in another order, and these rearranged in themselves. -/
structure File.Rearranged (f g : File) : Prop where
  name : f.name = g.name
  package : f.package = g.package
  options : f.options = g.options
  enums : f.enums = g.enums
  messages : ∃ ms, List.Forall₂ Message.Rearranged f.messages ms ∧ ms.Perm g.messages

section Declarations

variable {s t : Schema} (same : s.enumeration = t.enumeration)
include same

private theorem checkDeclarations_rearranged {m n : Message} (rearranged : m.Rearranged n) :
    checkDeclarations s m = .ok () ↔ checkDeclarations t n = .ok () := by
  rw [checkDeclarations_eq same, checkDeclarations_eq_ok_iff, checkDeclarations_eq_ok_iff,
    Message.isDisabled, Message.isDisabled, rearranged.extensions]
  refine exists_congr fun disabled => and_congr_right fun _ => imp_congr_right fun _ => ?_
  have base : m.errorBase = n.errorBase := by
    rw [Message.errorBase, Message.errorBase, rearranged.extensions]
  constructor
  · rintro ⟨readable, fields, oneofs⟩
    exact ⟨base ▸ readable, fun field member => fields field (rearranged.fields.mem_iff.mpr member),
      fun oneof member => oneofs oneof (rearranged.oneofs.mem_iff.mpr member)⟩
  · rintro ⟨readable, fields, oneofs⟩
    exact ⟨base ▸ readable, fun field member => fields field (rearranged.fields.mem_iff.mp member),
      fun oneof member => oneofs oneof (rearranged.oneofs.mem_iff.mp member)⟩

private theorem checkMessage_rearranged {f g : File} {m n : Message} (rearranged : m.Rearranged n) :
    checkMessage s f m = .ok () ↔ checkMessage t g n = .ok () := by
  rw [checkMessage_eq_ok_iff, checkMessage_eq_ok_iff]
  exact checkDeclarations_rearranged same rearranged

private theorem checkFile_rearranged {f g : File} (rearranged : f.Rearranged g) :
    checkFile s f = .ok () ↔ checkFile t g = .ok () := by
  obtain ⟨ms, each, perm⟩ := rearranged.messages
  rw [checkFile_eq_ok_iff, checkFile_eq_ok_iff]
  simp only [← perm.mem_iff]
  clear perm
  generalize f.messages = listed at each
  induction each with
  | nil => simp
  | cons first _ ih =>
      rw [List.forall_mem_cons, List.forall_mem_cons, checkDeclarations_rearranged same first, ih]

end Declarations

/-- What is accepted stays so in any order: alternatives of rules may be rearranged and left out,
whatever the position and the kind, and fields, oneofs and messages may be rearranged, also in the
files that types are looked up in. -/
theorem acceptance_ignores_order_and_omission :
    (∀ (schema : Schema) (shape : Shape) (message : Option MessageRules)
      (kept rules : TypedRules FieldRules) (inject : Bool), kept.SomeOf rules →
        checkRules schema shape ⟨message, some rules⟩ inject = .ok () →
          checkRules schema shape ⟨message, some kept⟩ inject = .ok ()) ∧
    (∀ (schema : Schema) (file : File) (m n : Message), m.Rearranged n →
      (checkMessage schema file m = .ok () ↔ checkMessage schema file n = .ok ())) ∧
    (∀ (schema : Schema) (f g : File), f.Rearranged g →
      (checkFile schema f = .ok () ↔ checkFile schema g = .ok ())) ∧
    ∀ fs gs : List File, List.Forall₂ File.Rearranged fs gs → ∀ f g : File, f.Rearranged g →
      (checkFile (.ofFiles fs) f = .ok () ↔ checkFile (.ofFiles gs) g = .ok ()) := by
  refine ⟨fun schema shape message kept rules inject part => checkRules_of_someOf part,
    fun schema file m n => checkMessage_rearranged rfl, fun schema f g => checkFile_rearranged rfl,
    fun fs gs rearranged f g => checkFile_rearranged (Schema.enumeration_ofFiles ?_)⟩
  exact rearranged.imp fun _ _ same => ⟨same.package, same.enums⟩

/-! Two alternatives of three, and a file that is written in two orders. -/

def barred : DurationRule where
  denied := [{ seconds := ⟨5, by decide, by decide⟩ }]
  error := some { method := "barred" }

def limited (name : String) (least : Int) : Field where
  name := name
  shape := .single (.scalar (.numeric .int32))
  extensions := Extensions.insert {} rulesKey (.obj [("int32", .obj [("rules", .arr [
    .obj [("gte", .int least), ("error", .obj [("method", .str "tooLow")])]])])])

def ticket (fields : List Field) : Message where
  name := "Ticket"
  fields := fields

def refund : Message where
  name := "Refund"

def boxOffice (messages : List Message) : File where
  name := "office.proto"
  messages := messages

theorem boxOffice_accepted_in_both_orders :
    (TypedRules.SomeOf (.value (.duration (barred :: splitWindow.take 1)))
        (.value (.duration (splitWindow ++ [barred]))) ∧
      checkRules (.ofFiles []) (.single (.message "google.protobuf.Duration"))
        ⟨none, some (.value (.duration (splitWindow ++ [barred])))⟩ false = .ok () ∧
      checkRules (.ofFiles []) (.single (.message "google.protobuf.Duration"))
        ⟨none, some (.value (.duration (barred :: splitWindow.take 1)))⟩ false = .ok ()) ∧
    ((ticket [limited "row" 0, limited "seat" 1]).Rearranged
        (ticket [limited "seat" 1, limited "row" 0]) ∧
      checkMessage (.ofFiles []) (boxOffice []) (ticket [limited "row" 0, limited "seat" 1]) =
        .ok () ∧
      checkMessage (.ofFiles []) (boxOffice []) (ticket [limited "seat" 1, limited "row" 0]) =
        .ok ()) ∧
    ((boxOffice [ticket [limited "row" 0, limited "seat" 1], refund]).Rearranged
        (boxOffice [refund, ticket [limited "seat" 1, limited "row" 0]]) ∧
      checkFile (.ofFiles []) (boxOffice [refund, ticket [limited "seat" 1, limited "row" 0]]) =
        .ok () ∧
      checkFile (.ofFiles [boxOffice [refund, ticket [limited "seat" 1, limited "row" 0]]])
        (boxOffice [refund, ticket [limited "seat" 1, limited "row" 0]]) = .ok ()) := by
  obtain ⟨alternatives, members, messages, files⟩ := acceptance_ignores_order_and_omission
  have some : TypedRules.SomeOf (.value (.duration (barred :: splitWindow.take 1)))
      (.value (.duration (splitWindow ++ [barred]))) := by
    have first : (barred :: splitWindow.take 1).Subperm (barred :: splitWindow) :=
      ((List.take_sublist 1 splitWindow).cons_cons barred).subperm
    exact .duration (first.trans (List.perm_append_singleton barred splitWindow).symm.subperm)
  have swapped : (ticket [limited "row" 0, limited "seat" 1]).Rearranged
      (ticket [limited "seat" 1, limited "row" 0]) := ⟨rfl, rfl, .swap _ _ _, .refl _⟩
  have refunds : refund.Rearranged refund := ⟨rfl, rfl, .refl _, .refl _⟩
  have moved : (boxOffice [ticket [limited "row" 0, limited "seat" 1], refund]).Rearranged
      (boxOffice [refund, ticket [limited "seat" 1, limited "row" 0]]) :=
    ⟨rfl, rfl, rfl, rfl, _, .cons swapped (.cons refunds .nil), .swap _ _ _⟩
  exact ⟨⟨some, rfl, alternatives _ _ _ _ _ _ some rfl⟩,
    ⟨swapped, rfl, (members _ _ _ _ swapped).mp rfl⟩,
    ⟨moved, (messages _ _ _ moved).mp rfl, (files _ _ (.cons moved .nil) _ _ moved).mp rfl⟩⟩

end ProtoRules
