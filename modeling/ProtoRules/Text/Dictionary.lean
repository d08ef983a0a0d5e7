/-!
Dictionaries: lists of pairs in strictly increasing order of their keys, by code point. Inserting
under a key that is present replaces its value.
-/

namespace ProtoRules.Dictionary

variable {α : Type}

def insert (key : String) (value : α) : List (String × α) → List (String × α)
  | [] => [(key, value)]
  | (k, v) :: rest =>
    if key = k then (key, value) :: rest
    else if key < k then (key, value) :: (k, v) :: rest
    else (k, v) :: insert key value rest

def find? (key : String) : List (String × α) → Option α
  | [] => none
  | (k, v) :: rest => if key = k then some v else find? key rest

@[simp] theorem find?_nil (key : String) : find? (α := α) key [] = none := rfl

theorem find?_insert (key other : String) (value : α) (pairs : List (String × α)) :
    find? other (insert key value pairs) =
      if other = key then some value else find? other pairs := by
  induction pairs with
  | nil => simp [insert, find?]
  | cons p rest ih =>
    obtain ⟨k, v⟩ := p
    simp only [insert]
    split
    · rename_i h; subst h; simp only [find?]; split <;> rfl
    · rename_i h
      split
      · simp [find?]
      · simp only [find?, ih]
        by_cases ho : other = k
        · subst ho; simp [Ne.symm h]
        · simp [ho]

theorem mem_of_find? {key : String} {value : α} {pairs : List (String × α)}
    (h : find? key pairs = some value) : (key, value) ∈ pairs := by
  induction pairs with
  | nil => cases h
  | cons p rest ih =>
    obtain ⟨k, v⟩ := p
    simp only [find?] at h
    split at h
    · rename_i hk; cases h; subst hk; exact List.mem_cons_self
    · exact List.mem_cons_of_mem _ (ih h)

theorem mem_insert {key : String} {value : α} {pairs : List (String × α)} {p : String × α}
    (member : p ∈ insert key value pairs) : p = (key, value) ∨ p ∈ pairs := by
  induction pairs with
  | nil => exact .inl (List.mem_singleton.mp member)
  | cons q rest ih =>
    obtain ⟨k, v⟩ := q
    rw [insert] at member
    split at member
    · exact (List.mem_cons.mp member).imp_right (List.mem_cons_of_mem _)
    · split at member
      · exact List.mem_cons.mp member
      · rcases List.mem_cons.mp member with first | later
        · exact .inr (first ▸ List.mem_cons_self)
        · exact (ih later).imp_right (List.mem_cons_of_mem _)

/-- Pairs inserted one after the other, so that of equal keys the last one stays. -/
def ofList (pairs : List (String × α)) : List (String × α) :=
  pairs.foldl (fun d p => insert p.1 p.2 d) []

end ProtoRules.Dictionary
