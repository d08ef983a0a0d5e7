import Mathlib.Data.String.Basic
import ProtoRules.Json.Reader
import ProtoRules.Proofs.Rearrangement

/-!
Parts of JSON values. A condition on single values, which may tell how many containers stand around
one, holds throughout a value if all of its parts meet it.
-/

namespace ProtoRules

namespace Json

def parts : Json → List Json
  | arr items => items
  | obj members => members.map Prod.snd
  | _ => []

/-- A value inside so many containers meets a condition, and so do all parts of it where they are.
-/
inductive Throughout (P : Nat → Json → Prop) : Nat → Json → Prop
  | intro {level : Nat} {j : Json} (here : P level j)
      (inside : ∀ i ∈ j.parts, Throughout P (level + 1) i) : Throughout P level j

namespace Throughout

variable {P Q : Nat → Json → Prop} {level : Nat} {j : Json}

theorem here (all : Throughout P level j) : P level j := by
  cases all with
  | intro here _ => exact here

theorem inside (all : Throughout P level j) : ∀ i ∈ j.parts, Throughout P (level + 1) i := by
  cases all with
  | intro _ inside => exact inside

theorem mono (all : Throughout P level j) (weaker : ∀ n i, P n i → Q n i) :
    Throughout Q level j := by
  induction all with
  | intro here _ ih => exact .intro (weaker _ _ here) ih

theorem and (first : Throughout P level j) (second : Throughout Q level j) :
    Throughout (fun n i => P n i ∧ Q n i) level j := by
  induction first with
  | intro here _ ih =>
      exact .intro ⟨here, second.here⟩ fun i part => ih i part (second.inside i part)

/-- The number of containers does not matter to a condition that does not look at it. -/
theorem anywhere {R : Json → Prop} (all : Throughout (fun _ => R) level j) (other : Nat) :
    Throughout (fun _ => R) other j := by
  induction all generalizing other with
  | intro here _ ih => exact .intro here fun i part => ih i part (other + 1)

theorem scalar (here : P level j) (plain : j.parts = []) : Throughout P level j := by
  refine .intro here fun i part => ?_
  rw [plain] at part
  cases part

theorem member {members : List Member} (all : Throughout P level (.obj members)) :
    ∀ m ∈ members, Throughout P (level + 1) m.2 :=
  fun _ listed => all.inside _ (List.mem_map_of_mem listed)

theorem obj {members : List Member} (here : P level (.obj members))
    (each : ∀ m ∈ members, Throughout P (level + 1) m.2) : Throughout P level (.obj members) := by
  refine .intro here fun i part => ?_
  obtain ⟨m, listed, rfl⟩ := List.mem_map.mp part
  exact each m listed

end Throughout

/-- The integers that are read as such. -/
def Ranged (n : Int) : Prop :=
  -(IntFormat.count 63 : Int) ≤ n ∧ n < IntFormat.count 64

def IsRanged : Json → Prop
  | int n => Ranged n
  | _ => True

def IsOrdered : Json → Prop
  | obj members => (keys members).Pairwise (· < ·)
  | _ => True

def isContainer : Json → Bool
  | arr _ => true
  | obj _ => true
  | _ => false

/-- Whether a value may stand inside so many containers. -/
def IsAllowed (level : Nat) (j : Json) : Prop :=
  j.isContainer = true → level < nestingLimit

instance : DecidablePred IsRanged
  | int n => inferInstanceAs (Decidable (-(IntFormat.count 63 : Int) ≤ n ∧ n < IntFormat.count 64))
  | null | bool _ | float _ | str _ | arr _ | obj _ | unreadable => isTrue trivial

instance : DecidablePred IsOrdered
  | obj members => inferInstanceAs (Decidable ((keys members).Pairwise (· < ·)))
  | null | bool _ | int _ | float _ | str _ | arr _ | unreadable => isTrue trivial

instance (level : Nat) (j : Json) : Decidable (j.IsAllowed level) :=
  inferInstanceAs (Decidable (j.isContainer = true → level < nestingLimit))

instance (j : Json) : Decidable (j = .unreadable) :=
  match j with
  | unreadable => isTrue rfl
  | null | bool _ | int _ | float _ | str _ | arr _ | obj _ => isFalse nofun

instance (j : Json) : Decidable (∀ x, j ≠ .float x) :=
  match j with
  | float x => isFalse fun other => other x rfl
  | null | bool _ | int _ | str _ | arr _ | obj _ | unreadable => isTrue nofun

/-- A value as it is held: integers in range, and of every object each member once and in order. -/
def Valid (j : Json) : Prop :=
  Throughout (fun _ i => i.IsRanged ∧ i.IsOrdered ∧ i ≠ .unreadable) 0 j

def FloatFree (j : Json) : Prop :=
  Throughout (fun _ i => ∀ x, i ≠ .float x) 0 j

/-- No container stands inside more containers than the reader takes. -/
def Shallow (j : Json) : Prop :=
  Throughout IsAllowed 0 j

section Decisions

variable {P : Nat → Json → Prop} [∀ n j, Decidable (P n j)]

theorem throughout_iff {P : Nat → Json → Prop} {level : Nat} {j : Json} :
    Throughout P level j ↔ P level j ∧ ∀ i ∈ j.parts, Throughout P (level + 1) i :=
  ⟨fun all => ⟨all.here, all.inside⟩, fun all => .intro all.1 all.2⟩

mutual

def decideThroughout (level : Nat) : (j : Json) → Decidable (Throughout P level j)
  | arr items =>
    have := decideItems (level + 1) items
    decidable_of_iff (P level (arr items) ∧ ∀ i ∈ items, Throughout P (level + 1) i)
      throughout_iff.symm
  | obj members =>
    have := decideMembers (level + 1) members
    decidable_of_iff
      (P level (obj members) ∧ ∀ i ∈ members.map Prod.snd, Throughout P (level + 1) i)
      throughout_iff.symm
  | null => decidable_of_iff (P level null) ⟨fun here => .scalar here rfl, Throughout.here⟩
  | bool b => decidable_of_iff (P level (bool b)) ⟨fun here => .scalar here rfl, Throughout.here⟩
  | int n => decidable_of_iff (P level (int n)) ⟨fun here => .scalar here rfl, Throughout.here⟩
  | float x => decidable_of_iff (P level (float x)) ⟨fun here => .scalar here rfl, Throughout.here⟩
  | str s => decidable_of_iff (P level (str s)) ⟨fun here => .scalar here rfl, Throughout.here⟩
  | unreadable =>
    decidable_of_iff (P level unreadable) ⟨fun here => .scalar here rfl, Throughout.here⟩

def decideItems (level : Nat) : (items : List Json) → Decidable (∀ i ∈ items, Throughout P level i)
  | [] => isTrue nofun
  | j :: js =>
    have := decideThroughout level j
    have := decideItems level js
    decidable_of_iff (Throughout P level j ∧ ∀ i ∈ js, Throughout P level i)
      List.forall_mem_cons.symm

def decideMembers (level : Nat) :
    (members : List Member) → Decidable (∀ i ∈ members.map Prod.snd, Throughout P level i)
  | [] => isTrue nofun
  | (_, j) :: ms =>
    have := decideThroughout level j
    have := decideMembers level ms
    decidable_of_iff (Throughout P level j ∧ ∀ i ∈ ms.map Prod.snd, Throughout P level i)
      List.forall_mem_cons.symm

end

instance (level : Nat) (j : Json) : Decidable (Throughout P level j) :=
  decideThroughout level j

instance (j : Json) : Decidable j.Valid :=
  inferInstanceAs (Decidable (Throughout _ 0 j))

instance (j : Json) : Decidable j.FloatFree :=
  inferInstanceAs (Decidable (Throughout _ 0 j))

instance (j : Json) : Decidable j.Shallow :=
  inferInstanceAs (Decidable (Throughout _ 0 j))

end Decisions

theorem areReadable_iff {items : List Json} :
    areReadable items = true ↔ ∀ j ∈ items, j.isReadable = true := by
  induction items with
  | nil => simp [areReadable]
  | cons j js ih => rw [areReadable, Bool.and_eq_true, ih, List.forall_mem_cons]

theorem membersReadable_iff {members : List Member} :
    membersReadable members = true ↔ ∀ m ∈ members, m.2.isReadable = true := by
  induction members with
  | nil => simp [membersReadable]
  | cons m ms ih =>
      obtain ⟨key, j⟩ := m
      rw [membersReadable, Bool.and_eq_true, ih, List.forall_mem_cons]

theorem isReadable_of_throughout {level : Nat} {j : Json}
    (all : Throughout (fun _ i => i ≠ .unreadable) level j) : j.isReadable = true := by
  induction all with
  | @intro level j here inside ih =>
      cases j with
      | arr items => exact areReadable_iff.mpr ih
      | obj members =>
          exact membersReadable_iff.mpr fun m listed => ih m.2 (List.mem_map_of_mem listed)
      | unreadable => exact absurd rfl here
      | _ => rfl

end Json

namespace Dictionary

variable {α : Type} {key : String} {value : α} {pairs : List (String × α)}

private theorem insert_sorted (sorted : (pairs.map Prod.fst).Pairwise (· < ·)) :
    ((insert key value pairs).map Prod.fst).Pairwise (· < ·) := by
  induction pairs with
  | nil => exact List.pairwise_singleton _ key
  | cons p rest ih =>
      obtain ⟨k, v⟩ := p
      obtain ⟨least, others⟩ := List.pairwise_cons.mp sorted
      rw [insert]
      split
      · rename_i same
        subst same
        exact sorted
      · split
        · rename_i less
          refine List.pairwise_cons.mpr ⟨fun other member => ?_, sorted⟩
          rcases List.mem_cons.mp member with rfl | later
          · exact less
          · exact lt_trans less (least other later)
        · rename_i different notLess
          refine List.pairwise_cons.mpr ⟨fun other member => ?_, ih others⟩
          obtain ⟨p, inserted, rfl⟩ := List.mem_map.mp member
          rcases mem_insert inserted with rfl | later
          · exact lt_of_le_of_ne (le_of_not_gt notLess) (Ne.symm different)
          · exact least p.1 (List.mem_map_of_mem later)

private theorem insert_last (greatest : ∀ k ∈ pairs.map Prod.fst, k < key) :
    insert key value pairs = pairs ++ [(key, value)] := by
  induction pairs with
  | nil => rfl
  | cons p rest ih =>
      obtain ⟨k, v⟩ := p
      obtain ⟨less, others⟩ := List.forall_mem_cons.mp greatest
      rw [insert, if_neg less.ne', if_neg less.not_gt, ih others]
      rfl

end Dictionary

namespace Json

private theorem canonicalMembers_invariant {P : Json → Prop} {members done : List Member}
    (sorted : (keys done).Pairwise (· < ·)) (kept : ∀ m ∈ done, P m.2)
    (each : ∀ m ∈ members, P m.2.canonical) :
    (keys (canonicalMembers members done)).Pairwise (· < ·) ∧
      ∀ m ∈ canonicalMembers members done, P m.2 := by
  induction members generalizing done with
  | nil => exact ⟨sorted, kept⟩
  | cons m ms ih =>
      obtain ⟨key, j⟩ := m
      obtain ⟨first, others⟩ := List.forall_mem_cons.mp each
      refine ih (Dictionary.insert_sorted sorted) (fun p inserted => ?_) others
      rcases Dictionary.mem_insert inserted with rfl | known
      · exact first
      · exact kept p known

private theorem canonicalMembers_of_sorted {members done : List Member}
    (sorted : (keys (done ++ members)).Pairwise (· < ·))
    (each : ∀ m ∈ members, m.2.canonical = m.2) :
    canonicalMembers members done = done ++ members := by
  induction members generalizing done with
  | nil => rw [canonicalMembers, List.append_nil]
  | cons m ms ih =>
      obtain ⟨key, j⟩ := m
      obtain ⟨first, others⟩ := List.forall_mem_cons.mp each
      have first : j.canonical = j := first
      have regrouped : done ++ (key, j) :: ms = (done ++ [(key, j)]) ++ ms := by simp
      have greatest : ∀ k ∈ keys done, k < key := by
        rw [keys, List.map_append, List.pairwise_append] at sorted
        exact fun k earlier => sorted.2.2 k earlier key List.mem_cons_self
      rw [canonicalMembers, first, Dictionary.insert_last greatest, regrouped]
      exact ih (regrouped ▸ sorted) others

theorem canonical_of_throughout {level : Nat} {j : Json}
    (all : Throughout (fun _ i => i.IsOrdered) level j) : j.canonical = j := by
  induction all with
  | @intro level j here inside ih =>
      cases j with
      | arr items =>
          have each : ∀ i ∈ items, i.canonical = i := ih
          rw [canonical, canonicalItems_eq_map, List.map_congr_left each, List.map_id']
      | obj members =>
          have each : ∀ m ∈ members, m.2.canonical = m.2 := fun m listed =>
            ih m.2 (List.mem_map_of_mem listed)
          have same : canonicalMembers members [] = [] ++ members :=
            canonicalMembers_of_sorted here each
          rw [canonical, same, List.nil_append]
      | _ => rfl

/-- What holds throughout a value, whichever members are listed, holds of its canonical form. -/
theorem throughout_canonical {P : Nat → Json → Prop} {level : Nat} {j : Json}
    (all : Throughout P level j) (readable : j.isReadable = true)
    (listing : ∀ n members listed, P n (.obj members) → P n (.obj listed))
    (itemwise : ∀ n items others, P n (.arr items) → P n (.arr others)) :
    Throughout (fun n i => P n i ∧ i.IsOrdered ∧ i ≠ .unreadable) level j.canonical := by
  induction all with
  | @intro level j here inside ih =>
      cases j with
      | arr items =>
          rw [canonical, canonicalItems_eq_map]
          refine .intro ⟨itemwise _ _ _ here, trivial, Json.noConfusion⟩ fun i part => ?_
          obtain ⟨i, listed, rfl⟩ := List.mem_map.mp part
          exact ih i listed (areReadable_iff.mp readable i listed)
      | obj members =>
          have each : ∀ m ∈ members, Throughout (fun n i => P n i ∧ i.IsOrdered ∧ i ≠ .unreadable)
              (level + 1) m.2.canonical := fun m listed =>
            ih m.2 (List.mem_map_of_mem listed) (membersReadable_iff.mp readable m listed)
          have none : ∀ m ∈ ([] : List Member), Throughout
              (fun n i => P n i ∧ i.IsOrdered ∧ i ≠ .unreadable) (level + 1) m.2 :=
            fun _ listed => absurd listed List.not_mem_nil
          obtain ⟨sorted, kept⟩ := canonicalMembers_invariant List.Pairwise.nil none each
          exact .obj ⟨listing _ _ _ here, sorted, Json.noConfusion⟩ kept
      | unreadable => cases readable
      | _ => exact .scalar ⟨here, trivial, Json.noConfusion⟩ rfl

end Json

end ProtoRules
