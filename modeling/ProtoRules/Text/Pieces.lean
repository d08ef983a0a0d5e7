/-!
Cutting texts at a character and taking fixed beginnings and endings off. The pieces of a text,
joined with the character again, give back the text.
-/

namespace ProtoRules.Text

/-- The pieces between the occurrences of `sep`; there is always at least one. -/
def pieces (sep : Char) : List Char → List (List Char)
  | [] => [[]]
  | c :: cs =>
    if c = sep then [] :: pieces sep cs
    else
      match pieces sep cs with
      | [] => [[c]]
      | p :: ps => (c :: p) :: ps

theorem pieces_ne_nil (sep : Char) (cs : List Char) : pieces sep cs ≠ [] := by
  cases cs with
  | nil => simp [pieces]
  | cons c cs =>
    simp only [pieces]
    split
    · simp
    · split <;> simp

theorem intercalate_pieces (sep : Char) (cs : List Char) :
    [sep].intercalate (pieces sep cs) = cs := by
  induction cs with
  | nil => rfl
  | cons c cs ih =>
    simp only [pieces]
    split
    · rename_i h
      cases hp : pieces sep cs with
      | nil => exact absurd hp (pieces_ne_nil sep cs)
      | cons p ps => rw [hp] at ih; simp [List.intercalate, h] at ih ⊢; exact ih
    · split
      · rename_i hp
        exact absurd hp (pieces_ne_nil sep cs)
      · rename_i p ps hp
        rw [hp] at ih
        cases ps <;> simp_all [List.intercalate]

def splitOn (sep : Char) (s : String) : List String :=
  (pieces sep s.toList).map String.ofList

def lastPiece (sep : Char) (s : String) : String :=
  (splitOn sep s).getLast?.getD s

def after? (start s : String) : Option String :=
  (start.toList.isPrefixOf? s.toList).map String.ofList

def before? (ending s : String) : Option String :=
  (ending.toList.isSuffixOf? s.toList).map String.ofList

/-- A qualified name without the one leading dot it may carry. -/
def undot (name : String) : String :=
  (after? "." name).getD name

def cut? (sep : Char) (s : String) : Option (String × String) :=
  match s.toList.span (· != sep) with
  | (_, []) => none
  | (key, _ :: value) => some (String.ofList key, String.ofList value)

end ProtoRules.Text
