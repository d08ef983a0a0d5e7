import Mathlib.Data.List.Nodup
import ProtoRules.Json.Record

/-!
Orders of members. A value that was written field by field is read back field by field, whichever
order the members of its objects have come into since.
-/

namespace ProtoRules

namespace Dictionary

variable {α β : Type}

theorem find?_eq_none {key : String} {pairs : List (String × α)}
    (absent : key ∉ pairs.map Prod.fst) : find? key pairs = none := by
  cases found : find? key pairs with
  | none => rfl
  | some v => exact absurd (List.mem_map_of_mem (mem_of_find? found)) absent

theorem find?_of_mem {key : String} {value : α} {pairs : List (String × α)}
    (nodup : (pairs.map Prod.fst).Nodup) (member : (key, value) ∈ pairs) :
    find? key pairs = some value := by
  induction pairs with
  | nil => cases member
  | cons p rest ih =>
      obtain ⟨k, v⟩ := p
      rw [List.map_cons, List.nodup_cons] at nodup
      rw [find?]
      rcases List.mem_cons.mp member with same | inside
      · cases same
        rw [if_pos rfl]
      · have known : key ∈ rest.map Prod.fst := List.mem_map_of_mem inside
        rw [if_neg (ne_of_mem_of_not_mem known nodup.1)]
        exact ih nodup.2 inside

private theorem find?_perm {key : String} {pairs listed : List (String × α)}
    (nodup : (pairs.map Prod.fst).Nodup) (perm : listed.Perm pairs) :
    find? key listed = find? key pairs := by
  have listedNodup : (listed.map Prod.fst).Nodup := (perm.map Prod.fst).nodup_iff.mpr nodup
  cases found : find? key pairs with
  | some v => exact find?_of_mem listedNodup (perm.mem_iff.mpr (mem_of_find? found))
  | none =>
      apply find?_eq_none
      intro member
      obtain ⟨⟨k, v⟩, inside, rfl⟩ := List.mem_map.mp member
      rw [find?_of_mem nodup (perm.mem_iff.mp inside)] at found
      cases found

theorem find?_map (f : α → β) (key : String) (pairs : List (String × α)) :
    find? key (pairs.map (Prod.map id f)) = (find? key pairs).map f := by
  induction pairs with
  | nil => rfl
  | cons p rest ih =>
      obtain ⟨k, v⟩ := p
      simp only [List.map_cons, Prod.map_apply, id, find?]
      split
      · rfl
      · exact ih

private theorem insert_perm {key : String} (value : α) {pairs : List (String × α)}
    (absent : key ∉ pairs.map Prod.fst) :
    (insert key value pairs).Perm ((key, value) :: pairs) := by
  induction pairs with
  | nil => exact List.Perm.refl _
  | cons p rest ih =>
      obtain ⟨k, v⟩ := p
      rw [List.map_cons, List.mem_cons, not_or] at absent
      rw [insert, if_neg absent.1]
      split
      · exact List.Perm.refl _
      · exact ((ih absent.2).cons (k, v)).trans (List.Perm.swap _ _ _)

end Dictionary

namespace Json

def keys (members : List Member) : List String :=
  members.map Prod.fst

/-- A change of values that at most lists the members of objects in another order. -/
structure Rearranges (f : Json → Json) : Prop where
  bool : ∀ b, f (.bool b) = .bool b
  int : ∀ n, f (.int n) = .int n
  str : ∀ s, f (.str s) = .str s
  arr : ∀ items, f (.arr items) = .arr (items.map f)
  obj : ∀ members, (keys members).Nodup →
    ∃ listed, f (.obj members) = .obj listed ∧ listed.Perm (members.map (Prod.map id f))

theorem rearranges_id : Rearranges id where
  bool _ := rfl
  int _ := rfl
  str _ := rfl
  arr items := by rw [id, List.map_id]
  obj members _ := ⟨members, rfl, by rw [Prod.map_id, List.map_id]⟩

theorem canonicalItems_eq_map (items : List Json) : canonicalItems items = items.map canonical := by
  induction items with
  | nil => rfl
  | cons j js ih => rw [canonicalItems, ih, List.map_cons]

private theorem canonicalMembers_perm {members done : List Member} (nodup : (keys members).Nodup)
    (disjoint : ∀ key ∈ keys members, key ∉ keys done) :
    (canonicalMembers members done).Perm (members.map (Prod.map id canonical) ++ done) := by
  induction members generalizing done with
  | nil => exact List.Perm.refl _
  | cons m ms ih =>
      obtain ⟨k, j⟩ := m
      obtain ⟨fresh, rest⟩ := List.nodup_cons.mp nodup
      have inserted := Dictionary.insert_perm j.canonical (disjoint k List.mem_cons_self)
      refine (ih rest ?_).trans ?_
      · intro key member known
        rcases List.mem_cons.mp ((inserted.map Prod.fst).mem_iff.mp known) with rfl | known
        · exact fresh member
        · exact disjoint key (List.mem_cons_of_mem k member) known
      · exact (inserted.append_left _).trans List.perm_middle

theorem rearranges_canonical : Rearranges canonical where
  bool _ := rfl
  int _ := rfl
  str _ := rfl
  arr items := by rw [canonical, canonicalItems_eq_map]
  obj members nodup := by
    refine ⟨canonicalMembers members [], rfl, ?_⟩
    have disjoint : ∀ key ∈ keys members, key ∉ keys [] := fun _ _ => List.not_mem_nil
    have perm := canonicalMembers_perm nodup disjoint
    rwa [List.append_nil] at perm

theorem depth_pos (j : Json) : 0 < j.depth := by
  cases j <;> simp [depth]

namespace Rearranges

variable {f : Json → Json} {α : Type}

theorem obj_singleton (h : Rearranges f) (name : String) (j : Json) :
    f (.obj [(name, j)]) = .obj [(name, f j)] := by
  obtain ⟨listed, written, perm⟩ := h.obj [(name, j)] (List.pairwise_singleton _ name)
  rw [written, List.perm_singleton.mp perm]
  rfl

private theorem get?_obj (h : Rearranges f) {members : List Member} (nodup : (keys members).Nodup)
    (key : String) : (f (.obj members)).get? key = (Dictionary.find? key members).map f := by
  obtain ⟨listed, written, perm⟩ := h.obj members nodup
  have renamed : (members.map (Prod.map id f)).map Prod.fst = keys members := by
    rw [List.map_map]
    rfl
  rw [written, get?, Dictionary.find?_perm (by rwa [renamed]) perm, Dictionary.find?_map]

theorem depth_lt_of_find? (h : Rearranges f) {members : List Member}
    (nodup : (keys members).Nodup) {key : String} {j : Json}
    (found : Dictionary.find? key members = some j) : (f j).depth < (f (.obj members)).depth := by
  have member : (f (.obj members)).get? key = some (f j) := by
    rw [h.get?_obj nodup, found, Option.map_some]
  exact depth_lt_of_get? member

theorem text? (h : Rearranges f) (s : String) : Json.text? (f (.str s)) = some s := by
  rw [h.str, Json.text?]

theorem flag? (h : Rearranges f) (b : Bool) : Json.flag? (f (.bool b)) = some b := by
  rw [h.bool, Json.flag?]

theorem word? (h : Rearranges f) {g : IntFormat} (w : Word g) :
    Json.word? g (f (ofWord w)) = some w := by
  rw [ofWord, h.int, Json.word?, Word.ofInt?_val]

theorem byte? (h : Rearranges f) (b : UInt8) : Json.byte? (f (ofByte b)) = some b := by
  have bounded := b.toNat_lt
  rw [ofByte, h.int, Json.byte?, if_pos (by omega), Int.toNat_natCast, UInt8.ofNat_toNat]

theorem list? (h : Rearranges f) {read : Json → Option α} {write : α → Json} {as : List α}
    (reads : ∀ a ∈ as, read (f (write a)) = some a) :
    Json.list? read (f (.arr (as.map write))) = some as := by
  rw [h.arr, Json.list?]
  induction as with
  | nil => rfl
  | cons a as ih =>
      obtain ⟨first, rest⟩ := List.forall_mem_cons.mp reads
      simp only [List.map_cons, List.mapM_cons, first, ih rest]
      rfl

theorem bytes? (h : Rearranges f) (bs : List UInt8) : Json.bytes? (f (ofBytes bs)) = some bs :=
  h.list? fun b _ => h.byte? b

end Rearranges

private theorem nullable?_eq_some {α : Type} {read : Json → Option α} {j : Json} {a : α}
    (empty : read .null = none) (reads : read j = some a) :
    nullable? read j = some (some a) := by
  cases j with
  | null => rw [empty] at reads; cases reads
  | _ => simp only [nullable?, reads, Option.map_some]

/-- The fields of a record in their order, each with what is written for it, if anything is. -/
abbrev Slots := List (String × Option Json)

def present (slots : Slots) : List Member :=
  slots.filterMap fun (name, content) => content.map (name, ·)

theorem present_append (first rest : Slots) :
    present (first ++ rest) = present first ++ present rest :=
  List.filterMap_append

private theorem keys_present_sublist (slots : Slots) :
    (keys (present slots)).Sublist (slots.map Prod.fst) := by
  induction slots with
  | nil => exact List.Sublist.refl _
  | cons s slots ih =>
      obtain ⟨name, content⟩ := s
      cases content with
      | none => exact ih.cons name
      | some j => exact ih.cons_cons name

private theorem find?_present {slots : Slots} (nodup : (slots.map Prod.fst).Nodup) {name : String}
    {content : Option Json} (member : (name, content) ∈ slots) :
    Dictionary.find? name (present slots) = content := by
  have distinct : (keys (present slots)).Nodup := (keys_present_sublist slots).nodup nodup
  cases content with
  | some j =>
      apply Dictionary.find?_of_mem distinct
      exact List.mem_filterMap.mpr ⟨(name, some j), member, rfl⟩
  | none =>
      cases found : Dictionary.find? name (present slots) with
      | none => rfl
      | some j =>
          obtain ⟨⟨other, written⟩, declared, same⟩ :=
            List.mem_filterMap.mp (Dictionary.mem_of_find? found)
          obtain ⟨_, rfl, pair⟩ := Option.map_eq_some_iff.mp same
          cases pair
          have first := Dictionary.find?_of_mem nodup member
          rw [Dictionary.find?_of_mem nodup declared] at first
          cases first

/-! What the writers write, as slots. -/

def listSlot {α : Type} (write : α → Json) (as : List α) : Option Json :=
  if as.isEmpty then none else some (.arr (as.map write))

theorem singleton_eq_present (name : String) (j : Json) : [(name, j)] = present [(name, some j)] :=
  rfl

theorem cons_present (name : String) (j : Json) (slots : Slots) :
    (name, j) :: present slots = present ((name, some j) :: slots) :=
  rfl

theorem opt_eq_present {α : Type} (name : String) (write : α → Json) (x : Option α) :
    opt name write x = present [(name, x.map write)] := by
  cases x <;> rfl

theorem many_eq_present {α : Type} (name : String) (write : α → Json) (as : List α) :
    many name write as = present [(name, listSlot write as)] := by
  cases as <;> rfl

/-- A record that has what the slots say under their names, changed like the whole value. -/
structure Record.Lists (f : Json → Json) (r : Record) (slots : Slots) : Prop where
  named : r.positional = false
  find? : ∀ slot ∈ slots, Dictionary.find? slot.1 r.members = slot.2.map f

variable {f : Json → Json} {α β : Type}

theorem Rearranges.get?_present (h : Rearranges f) {slots : Slots}
    (nodup : (slots.map Prod.fst).Nodup) {name : String} {content : Option Json}
    (member : (name, content) ∈ slots) : (f (.obj (present slots))).get? name = content.map f := by
  rw [h.get?_obj ((keys_present_sublist slots).nodup nodup), find?_present nodup member]

theorem Rearranges.record (h : Rearranges f) {fields : List String} {closed : Bool} {slots : Slots}
    {next : Record → Option β} {b : β} (declared : slots.map Prod.fst = fields)
    (nodup : fields.Nodup) (rest : ∀ r : Record, r.Lists f slots → next r = some b) :
    (record? fields closed (f (.obj (present slots))) >>= next) = some b := by
  subst declared
  have sublist := keys_present_sublist slots
  obtain ⟨listed, written, perm⟩ := h.obj (present slots) (sublist.nodup nodup)
  have same : (keys listed).Perm (keys (present slots)) := by
    have := perm.map Prod.fst
    rwa [List.map_map] at this
  have single : ∀ name, listed.countP (·.1 == name) ≤ 1 := by
    intro name
    have counted := List.nodup_iff_count_le_one.mp (same.nodup_iff.mpr (sublist.nodup nodup)) name
    rwa [keys, List.count, List.countP_map] at counted
  have known : ∀ m ∈ listed, m.1 ∈ slots.map Prod.fst := fun m member =>
    sublist.subset (same.mem_iff.mp (List.mem_map_of_mem member))
  have opened : record? (slots.map Prod.fst) closed (f (.obj (present slots))) =
      some ⟨false, listed⟩ := by
    have all : listed.all (fun m => (slots.map Prod.fst).contains m.1) = true := by
      simpa using fun name j member => known (name, j) member
    rw [written, record?, all, if_pos]
    simpa using fun name _ _ => single name
  rw [opened]
  refine rest ⟨false, listed⟩ ⟨rfl, fun slot member => ?_⟩
  have looked := h.get?_present nodup member
  rwa [written, get?] at looked

namespace Record.Lists

variable {r : Record} {slots : Slots} {name : String} {read : Json → Option α} {write : α → Json}
  {b : β}

theorem tail {slot : String × Option Json} (lists : r.Lists f (slot :: slots)) : r.Lists f slots :=
  ⟨lists.named, fun other member => lists.find? other (List.mem_cons_of_mem slot member)⟩

theorem head {content : Option Json} (lists : r.Lists f ((name, content) :: slots)) :
    Dictionary.find? name r.members = content.map f :=
  lists.find? (name, content) List.mem_cons_self

theorem default? {j : Json} {a default : α} {next : α → Option β}
    (lists : r.Lists f ((name, some j) :: slots)) (reads : read (f j) = some a)
    (rest : r.Lists f slots → next a = some b) :
    (r.default? name default read >>= next) = some b := by
  rw [Record.default?, field?, lists.head]
  simp only [Option.map_some, reads]
  exact rest lists.tail

theorem required? {j : Json} {a : α} {next : α → Option β}
    (lists : r.Lists f ((name, some j) :: slots)) (reads : read (f j) = some a)
    (rest : r.Lists f slots → next a = some b) :
    (r.required? name read >>= next) = some b := by
  rw [Record.required?, field?, lists.head]
  simp only [Option.map_some, reads]
  exact rest lists.tail

theorem flag? (h : Rearranges f) {flag : Bool} {next : Bool → Option β}
    (lists : r.Lists f ((name, some (.bool flag)) :: slots))
    (rest : r.Lists f slots → next flag = some b) : (r.flag? name >>= next) = some b :=
  lists.default? (h.flag? flag) rest

theorem list? (h : Rearranges f) {as : List α} {next : List α → Option β}
    (lists : r.Lists f ((name, listSlot write as) :: slots))
    (reads : ∀ a ∈ as, read (f (write a)) = some a)
    (rest : r.Lists f slots → next as = some b) : (r.list? name read >>= next) = some b := by
  rw [Record.list?, Record.default?, field?, lists.head]
  cases as with
  | nil => exact rest lists.tail
  | cons a as =>
      have whole := h.list? reads
      simp only [listSlot, List.isEmpty_cons, Bool.false_eq_true, if_false, Option.map_some, whole]
      exact rest lists.tail

theorem optional? {x : Option α} {next : Option α → Option β}
    (lists : r.Lists f ((name, x.map write) :: slots)) (empty : read .null = none)
    (reads : ∀ a ∈ x, read (f (write a)) = some a)
    (rest : r.Lists f slots → next x = some b) : (r.optional? name read >>= next) = some b := by
  rw [Record.optional?, field?, lists.head]
  cases x with
  | none => exact rest lists.tail
  | some a =>
      simp only [Option.map_some, nullable?_eq_some empty (reads a rfl)]
      exact rest lists.tail

theorem nullable? {x : Option α} {next : Option α → Option β}
    (lists : r.Lists f ((name, x.map write) :: slots)) (empty : read .null = none)
    (reads : ∀ a ∈ x, read (f (write a)) = some a)
    (rest : r.Lists f slots → next x = some b) : (r.nullable? name read >>= next) = some b := by
  have same : r.nullable? name read = r.optional? name read := by
    rw [Record.nullable?, lists.named, Record.optional?]
    rfl
  rw [same]
  exact lists.optional? empty reads rest

end Record.Lists

end Json

end ProtoRules
