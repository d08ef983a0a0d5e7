import ProtoRules.Proofs.NameCharacters

/-!
Names of letters, digits and underscores as identifiers. In snake case such a name keeps what it
begins with. Capitalised it loses the underscores, those at its front as well, so that it begins
with what follows them: that may be a digit, and of a name of underscores nothing is left.
-/

namespace ProtoRules

namespace Text

def isNameStart (c : Char) : Bool :=
  c.isAlpha || c == '_'

def isNameChar (c : Char) : Bool :=
  isNameStart c || c.isDigit

private theorem isNameChar_of_isNameStart {c : Char} (start : isNameStart c = true) :
    isNameChar c = true :=
  Bool.or_eq_true_iff.mpr (.inl start)

private theorem ascii_of_isNameChar {c : Char} (char : isNameChar c = true) : c.toNat < 128 := by
  have letters : c.isAlpha = (c.isUpper || c.isLower) := rfl
  simp only [isNameChar, isNameStart, letters, Bool.or_eq_true, beq_iff_eq] at char
  obtain ((capital | small) | rfl) | digit := char
  · have below : c.val ≤ 'Z'.val := (of_decide_eq_true capital).2
    exact Nat.lt_of_le_of_lt (UInt32.le_iff_toNat_le.mp below) (by decide)
  · have below : c.val ≤ 'z'.val := of_decide_eq_true (Bool.and_eq_true_iff.mp small).2
    exact Nat.lt_of_le_of_lt (UInt32.le_iff_toNat_le.mp below) (by decide)
  · decide
  · exact Nat.lt_of_le_of_lt (Char.isDigit_iff_toNat.mp digit).2 (by decide)

/-- What a change of case makes of a character of names. -/
structure Cases (c : Char) : Prop where
  lowered : isNameChar c.toLower = true ∧ (isNameStart c = true → isNameStart c.toLower = true)
  raised : isNameChar c.toUpper = true ∧ isNameStart c.toUpper = isNameStart c
  separates : Cluster.isSeparator [c] = true ↔ c = '_'
  digit : c ≠ '_' → c.isDigit = !isNameStart c

private theorem cases_of_isNameChar {c : Char} (char : isNameChar c = true) : Cases c := by
  have all : ∀ n : Fin 128, isNameChar (Char.ofNat n) = true →
      (isNameChar (Char.ofNat n).toLower = true ∧
        (isNameStart (Char.ofNat n) = true → isNameStart (Char.ofNat n).toLower = true)) ∧
      (isNameChar (Char.ofNat n).toUpper = true ∧
        isNameStart (Char.ofNat n).toUpper = isNameStart (Char.ofNat n)) ∧
      (Cluster.isSeparator [Char.ofNat n] = true ↔ Char.ofNat n = '_') ∧
      (Char.ofNat n ≠ '_' → (Char.ofNat n).isDigit = !isNameStart (Char.ofNat n)) := by decide
  have here := all ⟨c.toNat, ascii_of_isNameChar char⟩
  simp only [Char.ofNat_toNat] at here
  obtain ⟨lowered, raised, separates, digit⟩ := here char
  exact ⟨lowered, raised, separates, digit⟩

private theorem lowerChar_of_isNameChar {c : Char} (char : isNameChar c = true) :
    lowerChar c = [c.toLower] :=
  if_pos (ascii_of_isNameChar char)

private theorem upperChar_of_isNameChar {c : Char} (char : isNameChar c = true) :
    upperChar c = [c.toUpper] :=
  if_pos (ascii_of_isNameChar char)

private theorem isNameChar_caseClosed : CaseClosed (isNameChar · = true) where
  lowered c char := by
    rw [lowerChar_of_isNameChar char]
    exact List.forall_mem_singleton.mpr (cases_of_isNameChar char).lowered.1
  raised c char := by
    rw [upperChar_of_isNameChar char]
    exact List.forall_mem_singleton.mpr (cases_of_isNameChar char).raised.1
  sigma char := absurd (ascii_of_isNameChar char) (by decide)

/-- A letter or an underscore, and behind it letters, digits and underscores. -/
structure IsIdentifier (name : String) : Prop where
  start : ∃ c ∈ name.toList.head?, isNameStart c = true
  chars : ∀ c ∈ name.toList, isNameChar c = true

instance (name : String) : Decidable (IsIdentifier name) :=
  decidable_of_iff (name.toList.head?.any isNameStart = true ∧ name.toList.all isNameChar = true)
    (by
      rw [Option.any_eq_true, List.all_eq_true]
      exact ⟨fun ⟨start, chars⟩ => ⟨start, chars⟩, fun ⟨start, chars⟩ => ⟨start, chars⟩⟩)

/-- Whether no letter follows the underscores that a name begins with. -/
def isHollow (name : String) : Bool :=
  (name.toList.dropWhile (· == '_')).head?.all Char.isDigit

variable {name : String}

private theorem clusters_of_chars {cs : List Char} (chars : ∀ c ∈ cs, isNameChar c = true) :
    clusters cs = cs.map fun c => [c] :=
  clusters_eq fun c member => standsAlone_of_ascii (ascii_of_isNameChar (chars c member))

private theorem exists_cons_wordsOf {c : Char} (cs : List Char) (char : isNameChar c = true)
    (other : c ≠ '_') :
    ∃ w ws, wordsOf ((c :: cs).map fun c => [c]) = ([c] :: w) :: ws ∧
      ([c] :: w = [[c]] ∧ ws = wordsOf (cs.map fun c => [c]) ∨
        wordsOf (cs.map fun c => [c]) = w :: ws) := by
  obtain ⟨v, vs, later⟩ := List.exists_cons_of_ne_nil (wordsOf_ne_nil (cs.map fun c => [c]))
  have inside : ¬ Cluster.isSeparator [c] = true :=
    mt (cases_of_isNameChar char).separates.mp other
  rw [List.map_cons, wordsOf, if_neg inside]
  split
  · exact ⟨[], _, rfl, .inl ⟨rfl, rfl⟩⟩
  · rw [later]
    exact ⟨v, vs, rfl, .inr rfl⟩

private theorem wordsOf_of_underscore (cs : List Char) :
    wordsOf (('_' :: cs).map fun c => [c]) = [] :: wordsOf (cs.map fun c => [c]) := by
  rw [List.map_cons, wordsOf]
  exact if_pos rfl

private theorem head?_lowerWord {c : Char} (char : isNameChar c = true) (w : List Cluster) :
    (lowerWord ([c] :: w)).head? = some c.toLower := by
  have other : c ≠ sigma := by
    rintro rfl
    exact absurd (ascii_of_isNameChar char) (by decide)
  rw [lowerWord, List.flatten_cons, List.singleton_append, lower, lowerAfter, if_neg other,
    lowerChar_of_isNameChar char]
  rfl

private theorem head?_intercalate {sep part : List Char} (filled : part ≠ [])
    (parts : List (List Char)) :
    (sep.intercalate (part :: parts)).head? = part.head? := by
  cases parts with
  | nil => simp
  | cons next parts =>
      rw [List.intercalate_cons_cons, List.append_assoc]
      exact List.head?_append_of_ne_nil part filled

private theorem head?_snake (chars : ∀ c ∈ name.toList, isNameChar c = true) :
    (snake name).toList.head? = name.toList.head?.map Char.toLower := by
  rw [snake, words, clusters_of_chars chars, String.toList_ofList]
  cases spelled : name.toList with
  | nil => rfl
  | cons c cs =>
      have char := chars c (spelled ▸ List.mem_cons_self)
      by_cases other : c = '_'
      · obtain ⟨v, vs, later⟩ := List.exists_cons_of_ne_nil (wordsOf_ne_nil (cs.map fun c => [c]))
        rw [other, wordsOf_of_underscore, later, List.map_cons, List.map_cons,
          List.intercalate_cons_cons]
        rfl
      · obtain ⟨w, ws, split, _⟩ := exists_cons_wordsOf cs char other
        have first := head?_lowerWord char w
        have filled : lowerWord ([c] :: w) ≠ [] := by
          intro empty
          rw [empty] at first
          cases first
        rw [split, List.map_cons, head?_intercalate filled, first]
        rfl

theorem IsIdentifier.snake (legal : IsIdentifier name) : IsIdentifier (snake name) where
  start := by
    obtain ⟨c, first, start⟩ := legal.start
    have char := isNameChar_of_isNameStart start
    rw [head?_snake legal.chars, first]
    exact ⟨c.toLower, rfl, (cases_of_isNameChar char).lowered.2 start⟩
  chars := isNameChar_caseClosed.snake rfl legal.chars

private theorem head?_capitalWord {c : Char} (char : isNameChar c = true) (w : List Cluster) :
    (capitalWord ([c] :: w)).head? = some c.toUpper := by
  rw [capitalWord, upper, List.flatMap_singleton, upperChar_of_isNameChar char]
  rfl

/-- Of the underscores in front nothing is left. -/
private theorem head?_pascal (chars : ∀ c ∈ name.toList, isNameChar c = true) :
    (pascal name).toList.head? = (name.toList.dropWhile (· == '_')).head?.map Char.toUpper := by
  rw [pascal, words, clusters_of_chars chars, String.toList_ofList]
  generalize name.toList = cs at chars
  induction cs with
  | nil => rfl
  | cons c cs ih =>
      obtain ⟨char, rest⟩ := List.forall_mem_cons.mp chars
      by_cases other : c = '_'
      · rw [other, wordsOf_of_underscore, List.flatMap_cons]
        exact ih rest
      · obtain ⟨w, ws, split, _⟩ := exists_cons_wordsOf cs char other
        have first := head?_capitalWord char w
        rw [split, List.flatMap_cons, List.head?_append, first,
          List.dropWhile_cons_of_neg (by simpa using other)]
        rfl

theorem isIdentifier_pascal_iff (legal : IsIdentifier name) :
    IsIdentifier (pascal name) ↔ isHollow name = false := by
  have start : (∃ c ∈ (pascal name).toList.head?, isNameStart c = true) ↔
      isHollow name = false := by
    rw [head?_pascal legal.chars, isHollow]
    have front := List.head?_dropWhile_not (· == '_') name.toList
    cases left : name.toList.dropWhile (· == '_') with
    | nil => simp
    | cons c cs =>
        rw [left] at front
        have member : c ∈ name.toList :=
          (List.dropWhile_sublist _).subset (left ▸ List.mem_cons_self)
        have cases := cases_of_isNameChar (legal.chars c member)
        have other : c ≠ '_' := by simpa using front
        simp [cases.raised.2, cases.digit other]
  have chars := isNameChar_caseClosed.pascal legal.chars
  exact ⟨fun capital => start.mp capital.start, fun letter => ⟨start.mpr letter, chars⟩⟩

end Text

namespace Rust

open Text

variable {name : String}

private theorem isIdentifierTail_of_isNameChar {c : Char} (char : isNameChar c = true) :
    isIdentifierTail c = true := by
  have all : ∀ n : Fin 128, isNameChar (Char.ofNat n) = true →
      isIdentifierTail (Char.ofNat n) = true := by decide
  have here := all ⟨c.toNat, ascii_of_isNameChar char⟩
  simp only [Char.ofNat_toNat] at here
  exact here char

private theorem isIdentifierStart_eq {c : Char} (char : isNameChar c = true) :
    isIdentifierStart c = isNameStart c := by
  have ascii : ¬ 128 ≤ c.toNat := Nat.not_le.mpr (ascii_of_isNameChar char)
  simp [isIdentifierStart, isNameStart, ascii, Bool.or_comm]

/-- A name of letters, digits and underscores is an identifier unless a digit comes first, or
nothing. -/
theorem isIdentifier_iff (chars : ∀ c ∈ name.toList, isNameChar c = true) :
    isIdentifier name.toList = true ↔ IsIdentifier name := by
  have start : isIdentifier name.toList = true ↔
      ∃ c ∈ name.toList.head?, isNameStart c = true := by
    cases spelled : name.toList with
    | nil => simp [isIdentifier]
    | cons c cs =>
        rw [spelled] at chars
        obtain ⟨char, rest⟩ := List.forall_mem_cons.mp chars
        have tails : cs.all isIdentifierTail = true :=
          List.all_eq_true.mpr fun d member => isIdentifierTail_of_isNameChar (rest d member)
        simp [isIdentifier, isIdentifierStart_eq char, tails]
  exact start.trans ⟨fun start => ⟨start, chars⟩, IsIdentifier.start⟩

/-- No such name is taken for a raw identifier. -/
private theorem identifier_eq (chars : ∀ c ∈ name.toList, isNameChar c = true) :
    identifier name =
      if isIdentifier name.toList then .ok (.word name) else .error (.badIdentifier name) := by
  have plain : after? "r#" name = none := by
    refine after?_eq_none_iff.mpr fun rest raw => ?_
    have mark := chars '#' (by rw [raw]; simp)
    cases mark
  rw [identifier, plain]

theorem identifier_of_isIdentifier (legal : IsIdentifier name) :
    identifier name = .ok (.word name) := by
  rw [identifier_eq legal.chars, if_pos ((isIdentifier_iff legal.chars).mpr legal)]

private theorem identifier_escape_of_isIdentifier (legal : IsIdentifier name) :
    identifier (escape name) = .ok (.word (escape name)) := by
  unfold escape
  split
  · apply identifier_of_isIdentifier
    obtain ⟨c, first, start⟩ := legal.start
    refine ⟨⟨c, ?_, start⟩, ?_⟩
    · rw [String.toList_append, List.head?_append, first]
      rfl
    · rw [String.toList_append]
      exact List.forall_mem_append.mpr ⟨legal.chars, List.forall_mem_singleton.mpr rfl⟩
  · rename_i special
    split
    · rename_i keyword
      have raw : isNeverRaw name = false := by
        by_contra never
        have blank : name = "_" := by
          simp_all [isNeverRaw]
        rw [blank] at keyword
        cases keyword
      rw [identifier, after?_eq_some_iff.mpr rfl]
      simp [(isIdentifier_iff legal.chars).mpr legal, raw]
    · exact identifier_of_isIdentifier legal

/-- A field goes by an identifier whatever its name is. -/
theorem fieldIdentifier_of_isIdentifier (legal : IsIdentifier name) :
    fieldIdentifier name = .ok (.word (escape (snake name))) :=
  identifier_escape_of_isIdentifier legal.snake

/-- Capitalised, a name is an identifier unless it is hollow. -/
theorem identifier_pascal (legal : IsIdentifier name) :
    identifier (pascal name) =
      if isHollow name then .error (.badIdentifier (pascal name))
      else .ok (.word (pascal name)) := by
  have chars := isNameChar_caseClosed.pascal legal.chars
  have valid := (isIdentifier_iff chars).trans (isIdentifier_pascal_iff legal)
  rw [identifier_eq chars]
  cases hollow : isHollow name with
  | true => rw [if_pos rfl, if_neg (by simp [valid, hollow])]
  | false => rw [if_neg Bool.false_ne_true, if_pos (valid.mpr hollow)]

end Rust

end ProtoRules
