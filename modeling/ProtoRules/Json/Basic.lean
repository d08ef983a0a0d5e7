import ProtoRules.Number.Binary
import ProtoRules.Text.Dictionary

/-!
JSON values. Objects list their members in order; a value is canonical when the members of every
object come in strictly increasing order of their keys, by code point, so that no key repeats.
-/

namespace ProtoRules

/-- A JSON value. Integers are those that 64 bits hold; every other number is a float. -/
inductive Json
  | null
  | bool (b : Bool)
  | int (n : Int)
  | float (x : Binary .double)
  | str (s : String)
  | arr (items : List Json)
  | obj (members : List (String × Json))
  /-- Well-formed text without a value: a number beyond all range, an unpaired surrogate, or nesting
  past the limit. It may be skipped but not read. -/
  | unreadable
deriving Repr

namespace Json

abbrev Member := String × Json

mutual

def beq : Json → Json → Bool
  | null, null => true
  | bool a, bool b => a == b
  | int a, int b => a == b
  | float a, float b => a == b
  | str a, str b => a == b
  | arr as, arr bs => beqItems as bs
  | obj as, obj bs => beqMembers as bs
  | unreadable, unreadable => true
  | _, _ => false

def beqItems : List Json → List Json → Bool
  | [], [] => true
  | a :: as, b :: bs => a.beq b && beqItems as bs
  | _, _ => false

def beqMembers : List Member → List Member → Bool
  | [], [] => true
  | (k, a) :: as, (l, b) :: bs => k == l && a.beq b && beqMembers as bs
  | _, _ => false

end

mutual

theorem beq_iff : (a b : Json) → (a.beq b = true ↔ a = b)
  | arr as, b => by
    cases b with
    | arr bs => rw [beq, beqItems_iff as bs, arr.injEq]
    | _ => simp [beq]
  | obj as, b => by
    cases b with
    | obj bs => rw [beq, beqMembers_iff as bs, obj.injEq]
    | _ => simp [beq]
  | null, b | bool _, b | int _, b | float _, b | str _, b | unreadable, b => by
    cases b <;> simp [beq]

theorem beqItems_iff : (as bs : List Json) → (beqItems as bs = true ↔ as = bs)
  | [], bs => by cases bs <;> simp [beqItems]
  | a :: as, bs => by
    cases bs with
    | nil => simp [beqItems]
    | cons b bs => rw [beqItems, Bool.and_eq_true, beq_iff a b, beqItems_iff as bs, List.cons.injEq]

theorem beqMembers_iff : (as bs : List Member) → (beqMembers as bs = true ↔ as = bs)
  | [], bs => by cases bs <;> simp [beqMembers]
  | (k, a) :: as, bs => by
    cases bs with
    | nil => simp [beqMembers]
    | cons m bs =>
      rw [beqMembers, Bool.and_eq_true, Bool.and_eq_true, beq_iff_eq, beq_iff a m.2,
        beqMembers_iff as bs, List.cons.injEq, Prod.ext_iff]

end

/-- Numbers are compared as they are kept, also those that are not a number. -/
instance : DecidableEq Json :=
  fun a b => decidable_of_iff _ (beq_iff a b)

mutual

def depth : Json → Nat
  | arr items => depthItems items + 1
  | obj members => depthMembers members + 1
  | _ => 1

def depthItems : List Json → Nat
  | [] => 0
  | j :: js => max j.depth (depthItems js)

def depthMembers : List Member → Nat
  | [] => 0
  | (_, j) :: ms => max j.depth (depthMembers ms)

end

mutual

def isReadable : Json → Bool
  | arr items => areReadable items
  | obj members => membersReadable members
  | unreadable => false
  | _ => true

def areReadable : List Json → Bool
  | [] => true
  | j :: js => j.isReadable && areReadable js

def membersReadable : List Member → Bool
  | [] => true
  | (_, j) :: ms => j.isReadable && membersReadable ms

end

mutual

/-- The canonical form: keys sorted, of equal keys the last one kept. -/
def canonical : Json → Json
  | arr items => arr (canonicalItems items)
  | obj members => obj (canonicalMembers members [])
  | j => j

def canonicalItems : List Json → List Json
  | [] => []
  | j :: js => j.canonical :: canonicalItems js

def canonicalMembers : List Member → List Member → List Member
  | [], done => done
  | (k, j) :: ms, done => canonicalMembers ms (Dictionary.insert k j.canonical done)

end

/-- The member of an object; anything else has none. -/
def get? (key : String) : Json → Option Json
  | obj members => Dictionary.find? key members
  | _ => none

theorem depth_le_depthItems {j : Json} {items : List Json} (h : j ∈ items) :
    j.depth ≤ depthItems items := by
  induction items with
  | nil => cases h
  | cons i is ih =>
    rw [depthItems]
    cases h with
    | head => omega
    | tail _ h => have := ih h; omega

theorem depth_le_depthMembers {k : String} {j : Json} {members : List Member}
    (h : (k, j) ∈ members) : j.depth ≤ depthMembers members := by
  induction members with
  | nil => cases h
  | cons m ms ih =>
    obtain ⟨k', j'⟩ := m
    rw [depthMembers]
    cases h with
    | head => omega
    | tail _ h => have := ih h; omega

theorem depth_lt_of_get? {key : String} {j v : Json} (h : j.get? key = some v) :
    v.depth < j.depth := by
  cases j <;> simp only [get?, reduceCtorEq] at h
  rename_i members
  have := depth_le_depthMembers (Dictionary.mem_of_find? h)
  rw [depth]
  omega

end Json

end ProtoRules
