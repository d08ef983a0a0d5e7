import ProtoRules.Proofs.DescriptorRoundTrip
import ProtoRules.Proofs.JsonReading
import ProtoRules.Proofs.JsonText

/-!
Requests that are written as text and read again. What a request holds besides its extension
payloads is written in a few levels of containers, so whether it comes back depends on the
payloads alone.
-/

namespace ProtoRules

open Json (Throughout nestingLimit)

/-- A condition that everything meets which descriptors are written with. -/
structure Json.Ordinary (P : Nat → Json → Prop) : Prop where
  str : ∀ n s, P n (.str s)
  bool : ∀ n b, P n (.bool b)
  word : ∀ n (w : Word .int32), P n (ofWord w)
  arr : ∀ n items, n < nestingLimit → P n (.arr items)
  obj : ∀ n members, n < nestingLimit → P n (.obj members)

namespace Json.Ordinary

variable {P : Nat → Json → Prop} {n : Nat}

theorem text (ordinary : Ordinary P) (s : String) : Throughout P n (.str s) :=
  .scalar (ordinary.str n s) rfl

theorem flag (ordinary : Ordinary P) (b : Bool) : Throughout P n (.bool b) :=
  .scalar (ordinary.bool n b) rfl

theorem number (ordinary : Ordinary P) (w : Word .int32) : Throughout P n (ofWord w) :=
  .scalar (ordinary.word n w) rfl

theorem list (ordinary : Ordinary P) (within : n < nestingLimit) {α : Type} {write : α → Json}
    {as : List α} (each : ∀ a ∈ as, Throughout P (n + 1) (write a)) :
    Throughout P n (.arr (as.map write)) := by
  refine .intro (ordinary.arr n _ within) fun i part => ?_
  obtain ⟨a, listed, rfl⟩ := List.mem_map.mp part
  exact each a listed

theorem record (ordinary : Ordinary P) (within : n < nestingLimit) {members : List Member}
    (each : ∀ m ∈ members, Throughout P (n + 1) m.2) : Throughout P n (.obj members) :=
  .obj (ordinary.obj n members within) each

end Json.Ordinary

theorem Json.forall_mem_opt_iff {α : Type} {P : Json.Member → Prop} {name : String}
    {write : α → Json} {x : Option α} :
    (∀ m ∈ opt name write x, P m) ↔ ∀ a ∈ x, P (name, write a) := by
  cases x with
  | none => simp [opt]
  | some a => simp [opt]

private theorem Json.forall_mem_many {α : Type} {P : Json.Member → Prop} {name : String}
    {write : α → Json} {as : List α} (each : P (name, .arr (as.map write))) :
    ∀ m ∈ many name write as, P m := by
  cases as with
  | nil => exact fun _ listed => absurd listed List.not_mem_nil
  | cons a as => exact List.forall_mem_singleton.mpr each

private theorem Extensions.throughout_optMember {P : Nat → Json → Prop} {n : Nat} {e : Extensions}
    (all : Throughout P n e.toJson) :
    ∀ m ∈ e.optMember, Throughout P n m.2 := by
  rw [optMember]
  split
  · exact fun _ listed => absurd listed List.not_mem_nil
  · exact List.forall_mem_singleton.mpr all

section Written

variable {P : Nat → Json → Prop} {n : Nat} (ordinary : Json.Ordinary P)
include ordinary

private theorem ElementType.throughout_toJson (within : n < nestingLimit) (e : ElementType) :
    Throughout P n e.toJson := by
  cases e with
  | enum name => exact ordinary.record within (List.forall_mem_singleton.mpr (ordinary.text name))
  | message name =>
      exact ordinary.record within (List.forall_mem_singleton.mpr (ordinary.text name))
  | scalar t =>
      exact ordinary.record within (List.forall_mem_singleton.mpr (ordinary.text t.keyword))

private theorem Shape.throughout_toJson (within : n + 2 < nestingLimit) (s : Shape) :
    Throughout P n s.toJson := by
  cases s with
  | single e =>
      refine ordinary.record (by omega) (List.forall_mem_singleton.mpr ?_)
      exact e.throughout_toJson ordinary (by omega)
  | repeated e =>
      refine ordinary.record (by omega) (List.forall_mem_singleton.mpr ?_)
      exact e.throughout_toJson ordinary (by omega)
  | map key value =>
      refine ordinary.record (by omega) (List.forall_mem_singleton.mpr ?_)
      refine ordinary.record (by omega) (List.forall_mem_cons.mpr ⟨?_, ?_⟩)
      · exact key.throughout_toJson ordinary (by omega)
      · exact List.forall_mem_singleton.mpr (value.throughout_toJson ordinary (by omega))

private theorem Field.throughout_toJson {f : Field} (payload : Throughout P 7 f.extensions.toJson) :
    Throughout P 6 f.toJson := by
  refine ordinary.record (by decide) ?_
  rw [List.forall_mem_append, List.forall_mem_append, List.forall_mem_cons]
  refine ⟨⟨⟨ordinary.text f.name, List.forall_mem_singleton.mpr ?_⟩, ?_⟩, ?_⟩
  · exact f.shape.throughout_toJson ordinary (by decide)
  · exact Json.forall_mem_opt_iff.mpr fun name _ => ordinary.text name
  · exact Extensions.throughout_optMember payload

private theorem Oneof.throughout_toJson {o : Oneof} (payload : Throughout P 7 o.extensions.toJson) :
    Throughout P 6 o.toJson := by
  refine ordinary.record (by decide) ?_
  rw [List.forall_mem_append]
  exact ⟨List.forall_mem_singleton.mpr (ordinary.text o.name),
    Extensions.throughout_optMember payload⟩

private theorem Message.throughout_toJson {m : Message}
    (payloads : ∀ p ∈ m.payloads, Throughout P p.1 p.2.toJson) : Throughout P 4 m.toJson := by
  obtain ⟨own, fields, oneofs⟩ := forall_payloads_iff.mp payloads
  refine ordinary.record (by decide) ?_
  rw [List.forall_mem_append, List.forall_mem_append, List.forall_mem_cons]
  refine ⟨⟨⟨ordinary.text m.name, List.forall_mem_singleton.mpr ?_⟩, ?_⟩, ?_⟩
  · exact ordinary.list (by decide) fun f listed => f.throughout_toJson ordinary (fields f listed)
  · refine Json.forall_mem_many (ordinary.list (by decide) fun o listed => ?_)
    exact o.throughout_toJson ordinary (oneofs o listed)
  · exact Extensions.throughout_optMember own

private theorem EnumValue.throughout_toJson (v : EnumValue) : Throughout P 6 v.toJson := by
  refine ordinary.record (by decide) (List.forall_mem_cons.mpr ⟨ordinary.text v.name, ?_⟩)
  exact List.forall_mem_singleton.mpr (ordinary.number v.number)

private theorem Enum.throughout_toJson (e : Enum) : Throughout P 4 e.toJson := by
  refine ordinary.record (by decide) (List.forall_mem_cons.mpr ⟨ordinary.text e.name, ?_⟩)
  exact List.forall_mem_singleton.mpr
    (ordinary.list (by decide) fun v _ => v.throughout_toJson ordinary)

private theorem FileOptions.throughout_toJson (o : FileOptions) : Throughout P 3 o.toJson := by
  refine ordinary.record (by decide) ?_
  rw [List.forall_mem_append, List.forall_mem_append]
  refine ⟨⟨?_, ?_⟩, List.forall_mem_singleton.mpr (ordinary.flag o.javaMultipleFiles)⟩
  · exact Json.forall_mem_opt_iff.mpr fun name _ => ordinary.text name
  · exact Json.forall_mem_opt_iff.mpr fun name _ => ordinary.text name

private theorem File.throughout_toJson {file : File}
    (payloads : ∀ m ∈ file.messages, ∀ p ∈ m.payloads, Throughout P p.1 p.2.toJson) :
    Throughout P 2 file.toJson := by
  refine ordinary.record (by decide) ?_
  rw [List.forall_mem_append, List.forall_mem_cons, List.forall_mem_cons, List.forall_mem_cons]
  refine ⟨⟨ordinary.text file.name, ordinary.text file.package, ?_, ?_⟩, ?_⟩
  · exact file.options.throughout_toJson ordinary
  · refine List.forall_mem_singleton.mpr (ordinary.list (by decide) fun m listed => ?_)
    exact m.throughout_toJson ordinary (payloads m listed)
  · exact Json.forall_mem_many
      (ordinary.list (by decide) fun e _ => e.throughout_toJson ordinary)

/-- Whatever holds throughout the payloads where they stand, and of all that descriptors are written
with, holds throughout a written request. -/
private theorem Request.throughout_toJson {r : Request}
    (payloads : ∀ p ∈ r.payloads, Throughout P p.1 p.2.toJson) : Throughout P 0 r.toJson := by
  have each := forall_payloads_iff.mp payloads
  refine ordinary.record (by decide) ?_
  rw [List.forall_mem_append, List.forall_mem_append]
  refine ⟨⟨List.forall_mem_singleton.mpr ?_, ?_⟩,
    List.forall_mem_singleton.mpr (ordinary.text r.parameter)⟩
  · exact ordinary.list (by decide) fun file listed =>
      file.throughout_toJson ordinary (each file listed)
  · exact Json.forall_mem_many (ordinary.list (by decide) fun name _ => ordinary.text name)

end Written

section Reading

variable {P : Nat → Json → Prop} {n : Nat}

/-- The members of an opened record stand one container deeper than the record. -/
private theorem Json.members_of_record? {fields : List String} {closed : Bool} {j : Json}
    {r : Json.Record} (opened : record? fields closed j = some r) (all : Throughout P n j) :
    ∀ m ∈ r.members, Throughout P (n + 1) m.2 := by
  cases j with
  | obj members =>
      rw [record?] at opened
      split at opened
      · cases opened
        exact all.member
      · cases opened
  | arr items =>
      rw [record?] at opened
      split at opened
      · cases opened
        exact fun m listed => all.inside m.2 (List.of_mem_zip listed).2
      · cases opened
  | _ => cases opened

private theorem Json.Record.of_required? {α : Type} {r : Json.Record} {name : String}
    {read : Json → Option α} {a : α} (all : ∀ m ∈ r.members, Throughout P n m.2)
    (found : r.required? name read = some a) : ∃ i, Throughout P n i ∧ read i = some a := by
  rw [required?, field?] at found
  split at found
  · rename_i i held
    exact ⟨i, all _ (Dictionary.mem_of_find? held), found⟩
  · cases found

private theorem Json.Record.of_default? {α : Type} {r : Json.Record} {name : String}
    {read : Json → Option α} {a default : α} (all : ∀ m ∈ r.members, Throughout P n m.2)
    (found : r.default? name default read = some a) :
    a = default ∨ ∃ i, Throughout P n i ∧ read i = some a := by
  rw [default?, field?] at found
  split at found
  · rename_i i held
    exact .inr ⟨i, all _ (Dictionary.mem_of_find? held), found⟩
  · cases found
    exact .inl rfl

private theorem Json.of_list? {α : Type} {read : Json → Option α} {j : Json} {as : List α}
    (all : Throughout P n j) (listed : list? read j = some as) :
    ∀ a ∈ as, ∃ i, Throughout P (n + 1) i ∧ read i = some a := by
  cases j with
  | arr items =>
      have each : ∀ i ∈ items, Throughout P (n + 1) i := all.inside
      clear all
      rw [list?] at listed
      induction items generalizing as with
      | nil =>
          cases listed
          exact fun _ member => absurd member List.not_mem_nil
      | cons i is ih =>
          obtain ⟨first, others⟩ := List.forall_mem_cons.mp each
          simp only [List.mapM_cons, Option.bind_eq_bind, Option.bind_eq_some_iff,
            Option.pure_def, Option.some_inj] at listed
          obtain ⟨a, read, as, rest, rfl⟩ := listed
          exact List.forall_mem_cons.mpr ⟨⟨i, first, read⟩, ih rest others⟩
  | _ => cases listed

end Reading

namespace Extensions

/-- Payloads as they are held when they are read inside so many containers. -/
abbrev Held (n : Nat) (e : Extensions) : Prop :=
  Throughout (fun n i => (i.IsRanged ∧ i.IsAllowed n) ∧ i.IsOrdered ∧ i ≠ .unreadable) n e.toJson

variable {n : Nat}

private theorem held_of_ofJson? {j : Json} {e : Extensions} (read : Json.Read n j)
    (found : ofJson? j = some e) : e.Held n := by
  rw [ofJson?.eq_def] at found
  split at found
  · rename_i members
    split at found
    · rename_i readable
      cases found
      exact Json.throughout_canonical read readable (fun _ _ _ held => held) fun _ _ _ held => held
    · cases found
  · cases found

private theorem held_empty (within : n < nestingLimit) : Held n {} :=
  .intro ⟨⟨trivial, fun _ => within⟩, List.Pairwise.nil, nofun⟩ nofun

private theorem held_of_ofRecord? {r : Json.Record} {e : Extensions} (within : n < nestingLimit)
    (all : ∀ m ∈ r.members, Json.Read n m.2) (found : ofRecord? r = some e) : e.Held n := by
  rcases Json.Record.of_default? all found with rfl | ⟨i, read, found⟩
  · exact held_empty within
  · exact held_of_ofJson? read found

end Extensions

private theorem Field.held_of_ofJson? {j : Json} {f : Field} (read : Json.Read 6 j)
    (found : ofJson? j = some f) : f.extensions.Held 7 := by
  simp only [ofJson?, Option.bind_eq_bind, Option.bind_eq_some_iff, Option.pure_def,
    Option.some_inj] at found
  obtain ⟨r, opened, _, _, _, _, _, _, e, payload, rfl⟩ := found
  exact Extensions.held_of_ofRecord? (by decide) (Json.members_of_record? opened read) payload

private theorem Oneof.held_of_ofJson? {j : Json} {o : Oneof} (read : Json.Read 6 j)
    (found : ofJson? j = some o) : o.extensions.Held 7 := by
  simp only [ofJson?, Option.bind_eq_bind, Option.bind_eq_some_iff, Option.pure_def,
    Option.some_inj] at found
  obtain ⟨r, opened, _, _, e, payload, rfl⟩ := found
  exact Extensions.held_of_ofRecord? (by decide) (Json.members_of_record? opened read) payload

/-- The elements of a list that may be left out. -/
private theorem Json.Record.of_list? {P : Nat → Json → Prop} {n : Nat} {α : Type} {r : Json.Record}
    {name : String} {read : Json → Option α} {as : List α}
    (all : ∀ m ∈ r.members, Throughout P n m.2) (found : r.list? name read = some as) :
    ∀ a ∈ as, ∃ i, Throughout P (n + 1) i ∧ read i = some a := by
  rcases of_default? all found with rfl | ⟨i, part, found⟩
  · exact fun _ listed => absurd listed List.not_mem_nil
  · exact Json.of_list? part found

private theorem Message.held_of_ofJson? {j : Json} {m : Message} (read : Json.Read 4 j)
    (found : ofJson? j = some m) : ∀ p ∈ m.payloads, p.2.Held p.1 := by
  simp only [ofJson?, Option.bind_eq_bind, Option.bind_eq_some_iff, Option.pure_def,
    Option.some_inj] at found
  obtain ⟨r, opened, _, _, fields, fieldsFound, oneofs, oneofsFound, e, payload, rfl⟩ := found
  have all := Json.members_of_record? opened read
  have within : 5 < nestingLimit := by decide
  refine forall_payloads_iff.mpr ⟨?_, fun f listed => ?_, fun o listed => ?_⟩
  · exact Extensions.held_of_ofRecord? within all payload
  · obtain ⟨i, part, found⟩ := Json.Record.of_list? all fieldsFound f listed
    exact Field.held_of_ofJson? part found
  · obtain ⟨i, part, found⟩ := Json.Record.of_list? all oneofsFound o listed
    exact Oneof.held_of_ofJson? part found

private theorem File.held_of_ofJson? {j : Json} {file : File} (read : Json.Read 2 j)
    (found : ofJson? j = some file) :
    ∀ m ∈ file.messages, ∀ p ∈ m.payloads, p.2.Held p.1 := by
  simp only [ofJson?, Option.bind_eq_bind, Option.bind_eq_some_iff, Option.pure_def,
    Option.some_inj] at found
  obtain ⟨r, opened, _, _, _, _, _, _, messages, messagesFound, _, _, rfl⟩ := found
  have all := Json.members_of_record? opened read
  intro m listed
  obtain ⟨i, part, found⟩ := Json.Record.of_list? all messagesFound m listed
  exact Message.held_of_ofJson? part found

private theorem Request.held_of_ofJson? {j : Json} {r : Request} (read : Json.Read 0 j)
    (found : ofJson? j = some r) : ∀ p ∈ r.payloads, p.2.Held p.1 := by
  simp only [ofJson?, Option.bind_eq_bind, Option.bind_eq_some_iff, Option.pure_def,
    Option.some_inj] at found
  obtain ⟨record, opened, files, filesFound, _, _, _, _, rfl⟩ := found
  have all := Json.members_of_record? opened read
  refine forall_payloads_iff.mpr fun file listed => ?_
  obtain ⟨i, part, found⟩ := Json.Record.of_required? all filesFound
  obtain ⟨i, part, found⟩ := Json.of_list? part found file listed
  exact File.held_of_ofJson? part found

namespace Request

/-- All extension payloads are values as they are held, as those of every request that was read
are. -/
def Valid (r : Request) : Prop :=
  ∀ p ∈ r.payloads, p.2.toJson.Valid

/-- No extension payload holds a number that is no integer. -/
def FloatFree (r : Request) : Prop :=
  ∀ p ∈ r.payloads, p.2.toJson.FloatFree

instance (r : Request) : Decidable r.Valid :=
  inferInstanceAs (Decidable (∀ p ∈ r.payloads, p.2.toJson.Valid))

instance (r : Request) : Decidable r.FloatFree :=
  inferInstanceAs (Decidable (∀ p ∈ r.payloads, p.2.toJson.FloatFree))

variable {r : Request}

private theorem ordered_of_valid (valid : r.Valid) : ∀ p ∈ r.payloads, p.2.Ordered :=
  fun p listed => (valid p listed).mono fun _ _ held => held.2

private theorem held_of_parse? {text : String} (parsed : parse? text = some r) :
    ∀ p ∈ r.payloads, p.2.Held p.1 := by
  obtain ⟨j, read, found⟩ := Option.bind_eq_some_iff.mp parsed
  exact held_of_ofJson? (Json.read_of_parse read) found

private theorem valid_of_parse? {text : String} (parsed : parse? text = some r) : r.Valid := by
  intro p listed
  have there : Throughout (fun _ i => i.IsRanged ∧ i.IsOrdered ∧ i ≠ .unreadable) p.1 p.2.toJson :=
    (held_of_parse? parsed p listed).mono fun _ _ held => ⟨held.1.1, held.2⟩
  exact there.anywhere 0

private theorem ordinary_isAllowed : Json.Ordinary Json.IsAllowed where
  str _ _ := nofun
  bool _ _ := nofun
  word _ _ := nofun
  arr _ _ within := fun _ => within
  obj _ _ within := fun _ => within

private theorem shallow_of_parse? {text : String} (parsed : parse? text = some r) :
    r.toJson.Shallow :=
  throughout_toJson ordinary_isAllowed fun p listed =>
    (held_of_parse? parsed p listed).mono fun _ _ held => held.1.2

private theorem ranged_word (w : Word .int32) : Json.Ranged w.val := by
  have low : -(IntFormat.count 63 : Int) ≤ IntFormat.lo .int32 := by decide
  have high : IntFormat.hi .int32 < IntFormat.count 64 := by decide
  exact ⟨le_trans low w.lo_le, lt_of_le_of_lt w.le_hi high⟩

private theorem ordinary_isPlain : Json.Ordinary fun _ i => i.IsPlain where
  str _ _ := ⟨trivial, Json.noConfusion, fun _ => Json.noConfusion⟩
  bool _ _ := ⟨trivial, Json.noConfusion, fun _ => Json.noConfusion⟩
  word _ w := ⟨ranged_word w, Json.noConfusion, fun _ => Json.noConfusion⟩
  arr _ _ _ := ⟨trivial, Json.noConfusion, fun _ => Json.noConfusion⟩
  obj _ _ _ := ⟨trivial, Json.noConfusion, fun _ => Json.noConfusion⟩

private theorem parse?_render (valid : r.Valid) (floatFree : r.FloatFree)
    (shallow : r.toJson.Shallow) :
    parse? r.toJson.render = some r := by
  have plain : Throughout (fun _ i => i.IsPlain) 0 r.toJson := by
    refine throughout_toJson ordinary_isPlain fun p listed => ?_
    have payload : Throughout (fun _ i => i.IsPlain) 0 p.2.toJson :=
      ((valid p listed).and (floatFree p listed)).mono fun _ _ held =>
        ⟨held.1.1, held.1.2.2, held.2⟩
    exact payload.anywhere p.1
  rw [parse?, Json.parse_render plain shallow, Option.bind_some]
  exact ofJson?_toJson (ordered_of_valid valid)

end Request

/-- Reading undoes writing. A request comes back from what it is written as; if its payloads hold
no floats, it comes back from the text as well, provided that no payload is nested deeper than the
reader goes, which is so for every request that was itself read from text. -/
theorem request_decoding_undoes_encoding :
    (∀ r : Request, r.Valid → Request.ofJson? r.toJson = some r) ∧
    (∀ r : Request, r.Valid → r.FloatFree →
      (Request.parse? r.toJson.render = some r ↔ r.toJson.Shallow)) ∧
    ∀ (text : String) (r : Request), Request.parse? text = some r → r.FloatFree →
      Request.parse? r.toJson.render = some r := by
  refine ⟨fun r valid => ?_, fun r valid floatFree => ⟨fun parsed => ?_, fun shallow => ?_⟩,
    fun text r parsed floatFree => ?_⟩
  · exact Request.ofJson?_toJson (Request.ordered_of_valid valid)
  · exact Request.shallow_of_parse? parsed
  · exact Request.parse?_render valid floatFree shallow
  · exact Request.parse?_render (Request.valid_of_parse? parsed) floatFree
      (Request.shallow_of_parse? parsed)

/-- A request that leaves some members out and holds payloads on a message, a field and a oneof. -/
def loanRequest : Request where
  files := [{
    name := "loan.proto"
    package := "acme"
    options := { javaPackage := some "org.acme" }
    messages := [{
      name := "Loan"
      fields := [
        { name := "days", shape := .single (.scalar (.numeric .int32)), extensions := ⟨[(rulesKey,
            .obj [("int32", .obj [("rules", .arr [
              .obj [("error", .obj [("method", .str "tooShort")]), ("gte", .int 1)],
              .obj [("in", .arr [.int (-7), .null]), ("note", .str "a\t\"b\"")]])])])]⟩ },
        { name := "book", shape := .map (.scalar .string) (.message "acme.Book"),
          oneof := some "lent" }]
      oneofs := [{ name := "lent", extensions := ⟨[(Extensions.oneofKey,
        .obj [("required", .bool false)])]⟩ }]
      extensions := ⟨[(Extensions.disabledKey, .bool true)]⟩ }]
    enums := [{ name := "Kind", values := [⟨"SHORT", ⟨-1, by decide, by decide⟩⟩] }] }]
  parameter := "lang=java"

theorem loanRequest_undone :
    loanRequest.Valid ∧ loanRequest.FloatFree ∧ loanRequest.toJson.Shallow ∧
      Request.parse? loanRequest.toJson.render = some loanRequest ∧
      Request.ofJson? loanRequest.toJson = some loanRequest := by
  obtain ⟨values, texts, _⟩ := request_decoding_undoes_encoding
  have valid : loanRequest.Valid := by decide
  have floatFree : loanRequest.FloatFree := by decide
  have shallow : loanRequest.toJson.Shallow := by decide
  exact ⟨valid, floatFree, shallow, (texts loanRequest valid floatFree).mpr shallow,
    values loanRequest valid⟩

end ProtoRules
