import Mathlib.Data.List.Basic
import Mathlib.Data.List.TakeDrop
import Mathlib.Data.List.TakeWhile
import ProtoRules.Text.Blank
import ProtoRules.Text.Pieces

/-!
Texts that are taken apart. What is taken off at the beginning or at the end of a text gives back
the text when it is put on again, and so do the pieces it is cut into. White space around a text
does not matter to what is left of it after trimming.
-/

namespace ProtoRules.Text

theorem after?_eq_some_iff {start s rest : String} :
    after? start s = some rest ↔ s = start ++ rest := by
  rw [after?, Option.map_eq_some_iff]
  constructor
  · rintro ⟨tail, found, rfl⟩
    rw [List.isPrefixOf?_eq_some_iff_append_eq] at found
    apply String.toList_inj.mp
    rw [String.toList_append, String.toList_ofList, found]
  · rintro rfl
    refine ⟨rest.toList, ?_, String.ofList_toList⟩
    rw [List.isPrefixOf?_eq_some_iff_append_eq, String.toList_append]

theorem after?_eq_none_iff {start s : String} :
    after? start s = none ↔ ∀ rest, s ≠ start ++ rest := by
  simp only [Option.eq_none_iff_forall_ne_some, ne_eq, after?_eq_some_iff]

theorem before?_eq_some_iff {ending s rest : String} :
    before? ending s = some rest ↔ s = rest ++ ending := by
  rw [before?, Option.map_eq_some_iff]
  constructor
  · rintro ⟨front, found, rfl⟩
    rw [List.isSuffixOf?_eq_some_iff_append_eq] at found
    apply String.toList_inj.mp
    rw [String.toList_append, String.toList_ofList, found]
  · rintro rfl
    refine ⟨rest.toList, ?_, String.ofList_toList⟩
    rw [List.isSuffixOf?_eq_some_iff_append_eq, String.toList_append]

theorem undot_dotted (name : String) : undot ("." ++ name) = name := by
  rw [undot, after?_eq_some_iff.mpr rfl]
  rfl

theorem undot_of_head?_ne {name : String} (plain : name.toList.head? ≠ some '.') :
    undot name = name := by
  have undotted : after? "." name = none := by
    refine after?_eq_none_iff.mpr fun rest dotted => plain ?_
    rw [dotted, String.toList_append]
    rfl
  rw [undot, undotted]
  rfl

private theorem pieces_eq_splitOn (sep : Char) (cs : List Char) :
    pieces sep cs = cs.splitOn sep := by
  induction cs with
  | nil => rfl
  | cons c cs ih =>
      rw [pieces, List.splitOn, List.splitOnP_cons_eq_if_modifyHead, ← List.splitOn, ← ih]
      by_cases same : c = sep
      · rw [if_pos same, if_pos (beq_iff_eq.mpr same)]
      · rw [if_neg same, if_neg (beq_iff_eq.not.mpr same)]
        cases rest : pieces sep cs with
        | nil => exact absurd rest (pieces_ne_nil sep cs)
        | cons p ps => rfl

theorem splitOn_intercalate {sep : Char} {texts : List String} (nonempty : texts ≠ [])
    (free : ∀ text ∈ texts, sep ∉ text.toList) :
    splitOn sep ((String.singleton sep).intercalate texts) = texts := by
  have parts : ∀ cs ∈ texts.map String.toList, sep ∉ cs := List.forall_mem_map.mpr free
  have some : texts.map String.toList ≠ [] := fun none => nonempty (List.map_eq_nil_iff.mp none)
  rw [splitOn, pieces_eq_splitOn, String.toList_intercalate, String.toList_singleton,
    List.splitOn_intercalate sep parts some, List.map_map]
  simp

private theorem not_mem_of_mem_pieces {sep : Char} {cs piece : List Char}
    (member : piece ∈ pieces sep cs) : sep ∉ piece := by
  induction cs generalizing piece with
  | nil =>
      cases List.mem_singleton.mp member
      exact List.not_mem_nil
  | cons c cs ih =>
      rw [pieces] at member
      split at member
      · rcases List.mem_cons.mp member with rfl | later
        · exact List.not_mem_nil
        · exact ih later
      · rename_i other
        cases rest : pieces sep cs with
        | nil => exact absurd rest (pieces_ne_nil sep cs)
        | cons p ps =>
            rw [rest] at member ih
            rcases List.mem_cons.mp member with rfl | later
            · exact List.not_mem_cons_of_ne_of_not_mem (Ne.symm other) (ih List.mem_cons_self)
            · exact ih (List.mem_cons_of_mem p later)

theorem mem_pieces_of_mem (sep : Char) {c : Char} {cs : List Char} (member : c ∈ cs) :
    c = sep ∨ ∃ piece ∈ pieces sep cs, c ∈ piece := by
  induction cs with
  | nil => cases member
  | cons d cs ih =>
      obtain ⟨p, ps, rest⟩ := List.exists_cons_of_ne_nil (pieces_ne_nil sep cs)
      rw [pieces, rest]
      rw [rest] at ih
      by_cases mark : d = sep
      · rw [if_pos mark]
        rcases List.mem_cons.mp member with rfl | later
        · exact .inl mark
        · obtain same | ⟨piece, found, inside⟩ := ih later
          · exact .inl same
          · exact .inr ⟨piece, List.mem_cons_of_mem _ found, inside⟩
      · rw [if_neg mark]
        rcases List.mem_cons.mp member with rfl | later
        · exact .inr ⟨_, List.mem_cons_self, List.mem_cons_self⟩
        · obtain same | ⟨piece, found, inside⟩ := ih later
          · exact .inl same
          · rcases List.mem_cons.mp found with rfl | found
            · exact .inr ⟨_, List.mem_cons_self, List.mem_cons_of_mem _ inside⟩
            · exact .inr ⟨piece, List.mem_cons_of_mem _ found, inside⟩

theorem not_mem_lastPiece (sep : Char) (s : String) : sep ∉ (lastPiece sep s).toList := by
  rw [lastPiece, splitOn, List.getLast?_map]
  cases last : (pieces sep s.toList).getLast? with
  | none => exact absurd (List.getLast?_eq_none_iff.mp last) (pieces_ne_nil sep s.toList)
  | some piece =>
      simpa using not_mem_of_mem_pieces (List.mem_of_getLast? last)

/-- Every text is what its pieces give when they are joined. -/
theorem exists_eq_intercalate (sep : Char) (s : String) :
    ∃ texts ≠ [], (∀ text ∈ texts, sep ∉ text.toList) ∧
      s = (String.singleton sep).intercalate texts := by
  refine ⟨splitOn sep s, ?_, ?_, ?_⟩
  · exact fun none => pieces_ne_nil sep s.toList (List.map_eq_nil_iff.mp none)
  · intro text member
    obtain ⟨piece, found, rfl⟩ := List.mem_map.mp member
    rw [String.toList_ofList]
    exact not_mem_of_mem_pieces found
  · apply String.toList_inj.mp
    rw [String.toList_intercalate, String.toList_singleton, splitOn, List.map_map]
    simp [intercalate_pieces]

theorem cut?_append {sep : Char} {key : String} (free : sep ∉ key.toList) (value : String) :
    cut? sep (key ++ String.singleton sep ++ value) = some (key, value) := by
  have other : ∀ c ∈ key.toList, (c != sep) = true := fun c member =>
    bne_iff_ne.mpr (ne_of_mem_of_not_mem member free)
  have span : (key.toList ++ sep :: value.toList).span (· != sep) =
      (key.toList, sep :: value.toList) := by
    rw [List.span_eq_takeWhile_dropWhile, List.takeWhile_append_of_pos other,
      List.dropWhile_append_of_pos other]
    simp
  rw [cut?, String.toList_append, String.toList_append, String.toList_singleton, List.append_assoc,
    List.singleton_append, span]
  simp only [String.ofList_toList]

theorem cut?_eq_none {sep : Char} {s : String} (absent : sep ∉ s.toList) : cut? sep s = none := by
  have other : ∀ c ∈ s.toList, (c != sep) = true := fun c member =>
    bne_iff_ne.mpr (ne_of_mem_of_not_mem member absent)
  rw [cut?, List.span_eq_takeWhile_dropWhile, List.dropWhile_eq_nil_iff.mpr other]

theorem cut?_eq_some_iff {sep : Char} {s key value : String} : cut? sep s = some (key, value) ↔
    s = key ++ String.singleton sep ++ value ∧ sep ∉ key.toList := by
  constructor
  · intro found
    by_cases present : sep ∈ s.toList
    · obtain ⟨front, back, split, free⟩ := List.eq_append_cons_of_mem present
      have whole : s = String.ofList front ++ String.singleton sep ++ String.ofList back := by
        apply String.toList_inj.mp
        simp [split]
      have absent : sep ∉ (String.ofList front).toList := by rwa [String.toList_ofList]
      have cut := cut?_append absent (String.ofList back)
      rw [← whole, found] at cut
      cases cut
      exact ⟨whole, absent⟩
    · cases (cut?_eq_none present).symm.trans found
  · rintro ⟨rfl, free⟩
    exact cut?_append free value

section DropTail

variable {α : Type} {p : α → Bool} {xs kept : List α}

theorem dropWhile_append_of_stop {front rest : List α} (dropped : ∀ x ∈ front, p x = true)
    (stop : ∀ x ∈ rest.head?, p x = false) : (front ++ rest).dropWhile p = rest := by
  rw [List.dropWhile_append_of_pos dropped]
  cases rest with
  | nil => rfl
  | cons x rest => rw [List.dropWhile_cons_of_neg (by simp [stop x rfl])]

private theorem dropWhile_append_cons {x : α} (stop : p x = false) (front rest : List α) :
    (front ++ x :: rest).dropWhile p = front.dropWhile p ++ x :: rest := by
  rw [List.dropWhile_append, List.dropWhile_cons_of_neg (by simp [stop])]
  split
  · rename_i none
    rw [List.isEmpty_iff.mp none, List.nil_append]
  · rfl

private theorem dropTail_append_cons {x : α} (stop : p x = false) (front rest : List α) :
    dropTail p (front ++ x :: rest) = front ++ x :: dropTail p rest := by
  rw [dropTail, dropTail, List.reverse_append, List.reverse_cons, List.append_assoc,
    List.singleton_append, dropWhile_append_cons stop, List.reverse_append, List.reverse_cons,
    List.reverse_reverse, List.append_assoc, List.singleton_append]

private theorem dropTail_append_of_pos {dropped : List α} (all : ∀ x ∈ dropped, p x = true)
    (xs : List α) : dropTail p (xs ++ dropped) = dropTail p xs := by
  rw [dropTail, dropTail, List.reverse_append, List.dropWhile_append_of_pos]
  exact fun x member => all x (List.mem_reverse.mp member)

theorem dropTail_eq_iff : dropTail p xs = kept ↔
    (∃ dropped, xs = kept ++ dropped ∧ ∀ x ∈ dropped, p x = true) ∧
      ∀ x ∈ kept.getLast?, p x = false := by
  constructor
  · rintro rfl
    refine ⟨⟨(xs.reverse.takeWhile p).reverse, ?_, ?_⟩, ?_⟩
    · rw [dropTail, ← List.reverse_append, List.takeWhile_append_dropWhile, List.reverse_reverse]
    · intro x member
      exact List.all_eq_true.mp List.all_takeWhile x (List.mem_reverse.mp member)
    · intro x last
      rw [dropTail, List.getLast?_reverse] at last
      have stop := List.head?_dropWhile_not p xs.reverse
      rw [Option.mem_def.mp last] at stop
      exact stop
  · rintro ⟨⟨dropped, rfl, tail⟩, stop⟩
    rw [dropTail, List.reverse_append, dropWhile_append_of_stop, List.reverse_reverse]
    · intro x member
      exact tail x (List.mem_reverse.mp member)
    · rwa [List.head?_reverse]

end DropTail

/-- White space around a text does not matter to what is left of it. -/
theorem trim_append {before after : String} (front : isBlankText before = true)
    (back : isBlankText after = true) (s : String) : trim (before ++ s ++ after) = trim s := by
  have first := List.all_eq_true.mp front
  have last := List.all_eq_true.mp back
  rw [trim, trim, String.toList_append, String.toList_append, List.append_assoc, trimChars,
    trimChars, List.dropWhile_append_of_pos first, List.dropWhile_append]
  split
  · rename_i none
    rw [List.isEmpty_iff.mp none, List.dropWhile_eq_nil_iff.mpr last]
  · rw [dropTail_append_of_pos last]

private theorem trim_dropWhile (s : String) :
    trim (String.ofList (s.toList.dropWhile isBlank)) = trim s := by
  have front : isBlankText (String.ofList (s.toList.takeWhile isBlank)) = true := by
    rw [isBlankText, String.toList_ofList]
    exact List.all_takeWhile
  have split : s = String.ofList (s.toList.takeWhile isBlank) ++
      String.ofList (s.toList.dropWhile isBlank) ++ "" := by
    apply String.toList_inj.mp
    simp
  conv_rhs => rw [split]
  exact (trim_append front rfl _).symm

private theorem trim_dropTail (s : String) :
    trim (String.ofList (dropTail isBlank s.toList)) = trim s := by
  obtain ⟨⟨dropped, tail, blank⟩, _⟩ := dropTail_eq_iff.mp (rfl : dropTail isBlank s.toList = _)
  have back : isBlankText (String.ofList dropped) = true := by
    rw [isBlankText, String.toList_ofList]
    exact List.all_eq_true.mpr blank
  have split : s = "" ++ String.ofList (dropTail isBlank s.toList) ++ String.ofList dropped := by
    apply String.toList_inj.mp
    simpa using tail
  conv_rhs => rw [split]
  exact (trim_append rfl back _).symm

/-- Trimming takes nothing from between the ends, so that a text is cut at the same place. -/
theorem cut?_trim {sep : Char} (mark : isBlank sep = false) {s key value : String}
    (found : cut? sep s = some (key, value)) : ∃ first last,
      cut? sep (trim s) = some (first, last) ∧ trim first = trim key ∧ trim last = trim value := by
  obtain ⟨rfl, free⟩ := cut?_eq_some_iff.mp found
  have whole : trim (key ++ String.singleton sep ++ value) =
      String.ofList (key.toList.dropWhile isBlank) ++ String.singleton sep ++
        String.ofList (dropTail isBlank value.toList) := by
    rw [trim, trimChars, String.toList_append, String.toList_append, String.toList_singleton,
      List.append_assoc, List.singleton_append, dropWhile_append_cons mark,
      dropTail_append_cons mark]
    apply String.toList_inj.mp
    simp
  have absent : sep ∉ (String.ofList (key.toList.dropWhile isBlank)).toList := by
    rw [String.toList_ofList]
    exact fun member => free ((List.dropWhile_suffix isBlank).subset member)
  exact ⟨_, _, whole ▸ cut?_append absent _, trim_dropWhile key, trim_dropTail value⟩

end ProtoRules.Text
