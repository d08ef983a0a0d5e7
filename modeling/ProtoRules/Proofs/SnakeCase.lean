import Mathlib.Data.List.Chain
import ProtoRules.Emit.RustName
import ProtoRules.Proofs.Texts

/-!
Names in snake case as identifiers of fields. Words also end where a letter meets a digit, so that a
name comes out with one more underscore at each such place; it is kept exactly if there is none.
-/

namespace ProtoRules

namespace Text

/-- The properties that make a character a cluster of its own, which is classified and put into
lower case like the character. -/
structure StandsAlone (c : Char) : Prop where
  isUpper : Cluster.isUpper [c] = c.isUpper
  isLower : Cluster.isLower [c] = c.isLower
  isDigit : Cluster.isDigit [c] = c.isDigit
  apart : isExtender c = false ∧ isPrepended c = false
  lowered : c ≠ sigma ∧ (c.isUpper = false → lowerChar c = [c])

theorem standsAlone_of_ascii {c : Char} (ascii : c.toNat < 128) : StandsAlone c := by
  have classes : ∀ n : Fin 128, Cluster.isUpper [Char.ofNat n] = (Char.ofNat n).isUpper ∧
      Cluster.isLower [Char.ofNat n] = (Char.ofNat n).isLower ∧
      Cluster.isDigit [Char.ofNat n] = (Char.ofNat n).isDigit := by decide +kernel
  have casing : ∀ n : Fin 128, (isExtender (Char.ofNat n) = false ∧
      isPrepended (Char.ofNat n) = false) ∧
      Char.ofNat n ≠ sigma ∧
        ((Char.ofNat n).isUpper = false → lowerChar (Char.ofNat n) = [Char.ofNat n]) := by
    decide +kernel
  obtain ⟨upper, lower, digit⟩ := classes ⟨c.toNat, ascii⟩
  obtain ⟨apart, lowered⟩ := casing ⟨c.toNat, ascii⟩
  simp only [Char.ofNat_toNat] at upper lower digit apart lowered
  exact ⟨upper, lower, digit, apart, lowered⟩

theorem clusters_eq {cs : List Char} (alone : ∀ c ∈ cs, StandsAlone c) :
    clusters cs = cs.map fun c => [c] := by
  induction cs with
  | nil => rfl
  | cons c cs ih =>
      obtain ⟨first, rest⟩ := List.forall_mem_cons.mp alone
      rw [clusters, ih rest]
      cases cs with
      | nil => rfl
      | cons d cs =>
          have cut : attaches c d = false := by
            simp [attaches, first.apart.2, (rest d List.mem_cons_self).apart.1]
          simp [cut]

private theorem lower_eq {cs : List Char} (alone : ∀ c ∈ cs, StandsAlone c)
    (small : ∀ c ∈ cs, c.isUpper = false) : lower cs = cs := by
  have after : ∀ before, lowerAfter before cs = cs := by
    induction cs with
    | nil => exact fun _ => rfl
    | cons c cs ih =>
        obtain ⟨first, rest⟩ := List.forall_mem_cons.mp alone
        obtain ⟨firstSmall, restSmall⟩ := List.forall_mem_cons.mp small
        intro before
        rw [lowerAfter, if_neg first.lowered.1, first.lowered.2 firstSmall, ih rest restSmall]
        rfl
  exact after []

private theorem mem_extendFirst {c : Cluster} {ws : List (List Cluster)} {w : List Cluster}
    (member : w ∈ extendFirst c ws) : ∀ d ∈ w, d = c ∨ ∃ v ∈ ws, d ∈ v := by
  cases ws with
  | nil =>
      obtain rfl := List.mem_singleton.mp member
      exact fun d inside => .inl (List.mem_singleton.mp inside)
  | cons v vs =>
      intro d inside
      rcases List.mem_cons.mp member with rfl | later
      · refine (List.mem_cons.mp inside).imp_right fun inside => ?_
        exact ⟨v, List.mem_cons_self, inside⟩
      · exact .inr ⟨w, List.mem_cons_of_mem _ later, inside⟩

/-- Words hold nothing but the clusters of the name. -/
theorem mem_of_mem_wordsOf {cs : List Cluster} {w : List Cluster} (member : w ∈ wordsOf cs) :
    ∀ c ∈ w, c ∈ cs := by
  induction cs generalizing w with
  | nil =>
      obtain rfl := List.mem_singleton.mp member
      exact fun c inside => absurd inside List.not_mem_nil
  | cons c cs ih =>
      intro d inside
      rw [wordsOf] at member
      split at member
      · rcases List.mem_cons.mp member with rfl | later
        · cases inside
        · exact List.mem_cons_of_mem _ (ih later d inside)
      · split at member
        · rcases List.mem_cons.mp member with rfl | later
          · exact List.mem_cons.mpr (.inl (List.mem_singleton.mp inside))
          · exact List.mem_cons_of_mem _ (ih later d inside)
        · rcases mem_extendFirst member d inside with rfl | ⟨v, inWords, inside⟩
          · exact List.mem_cons_self
          · exact List.mem_cons_of_mem _ (ih inWords d inside)

theorem wordsOf_ne_nil (cs : List Cluster) : wordsOf cs ≠ [] := by
  cases cs with
  | nil => exact List.cons_ne_nil _ _
  | cons c cs =>
      rw [wordsOf]
      split
      · exact List.cons_ne_nil _ _
      · split
        · exact List.cons_ne_nil _ _
        · cases wordsOf cs <;> exact List.cons_ne_nil _ _

/-- The characters of names in snake case. -/
def isSnakeChar (c : Char) : Bool :=
  c.isLower || c.isDigit || c == '_'

/-- Whether a letter meets a digit. -/
def Meets (c d : Char) : Prop :=
  c.isLower = true ∧ d.isDigit = true ∨ c.isDigit = true ∧ d.isLower = true

instance (c d : Char) : Decidable (Meets c d) :=
  inferInstanceAs (Decidable (_ ∨ _))

/-- A text with an underscore wherever a letter meets a digit. -/
def separated : List Char → List Char
  | [] => []
  | c :: cs =>
      if cs.head?.any (fun d => Meets c d) then c :: '_' :: separated cs else c :: separated cs

private theorem separated_of_meets {c : Char} {cs : List Char} (meets : ∃ d ∈ cs.head?, Meets c d) :
    separated (c :: cs) = c :: '_' :: separated cs := by
  rw [separated, if_pos]
  simpa [Option.any_eq_true] using meets

private theorem separated_of_not_meets {c : Char} {cs : List Char}
    (apart : ¬ ∃ d ∈ cs.head?, Meets c d) :
    separated (c :: cs) = c :: separated cs := by
  rw [separated, if_neg]
  simpa [Option.any_eq_true] using apart

private theorem ascii_of_isSnakeChar {c : Char} (snake : isSnakeChar c = true) : c.toNat < 128 := by
  simp only [isSnakeChar, Bool.or_eq_true, beq_iff_eq] at snake
  obtain (small | digit) | rfl := snake
  · have below : c.val ≤ 'z'.val := of_decide_eq_true (Bool.and_eq_true_iff.mp small).2
    exact Nat.lt_of_le_of_lt (UInt32.le_iff_toNat_le.mp below) (by decide)
  · exact Nat.lt_of_le_of_lt (Char.isDigit_iff_toNat.mp digit).2 (by decide)
  · decide

private theorem isUpper_of_isSnakeChar {c : Char} (snake : isSnakeChar c = true) :
    c.isUpper = false := by
  have all : ∀ n : Fin 128, isSnakeChar (Char.ofNat n) = true → (Char.ofNat n).isUpper = false := by
    decide
  simpa [snake] using all ⟨c.toNat, ascii_of_isSnakeChar snake⟩

theorem isSeparator_iff {c : Char} (snake : isSnakeChar c = true) :
    Cluster.isSeparator [c] = true ↔ c = '_' := by
  have hyphen : c ≠ '-' := by
    rintro rfl
    cases snake
  have space : c ≠ ' ' := by
    rintro rfl
    cases snake
  simp [Cluster.isSeparator, hyphen, space]

theorem endsBefore_eq_iff {c : Char} {cs : List Char} (first : isSnakeChar c = true)
    (rest : ∀ d ∈ cs, isSnakeChar d = true) :
    endsBefore [c] (cs.map fun d => [d]) = true ↔ ∃ d ∈ cs.head?, Meets c d := by
  have alone := standsAlone_of_ascii (ascii_of_isSnakeChar first)
  cases cs with
  | nil => simp [endsBefore]
  | cons d ds =>
      have second := rest d List.mem_cons_self
      have next := standsAlone_of_ascii (ascii_of_isSnakeChar second)
      simp [endsBefore, alone.isUpper, alone.isLower, alone.isDigit, next.isUpper, next.isLower,
        next.isDigit, isUpper_of_isSnakeChar first, isUpper_of_isSnakeChar second, Meets]

private theorem intercalate_extendFirst (sep c : Char) (w : List Cluster)
    (ws : List (List Cluster)) :
    [sep].intercalate ((extendFirst [c] (w :: ws)).map List.flatten) =
      c :: [sep].intercalate ((w :: ws).map List.flatten) := by
  cases ws with
  | nil => simp [extendFirst]
  | cons v vs =>
      simp only [extendFirst, List.map_cons, List.intercalate_cons_cons, List.flatten_cons]
      rfl

private theorem intercalate_wordsOf {cs : List Char} (snake : ∀ c ∈ cs, isSnakeChar c = true) :
    ['_'].intercalate ((wordsOf (cs.map fun c => [c])).map List.flatten) = separated cs := by
  induction cs with
  | nil => rfl
  | cons c cs ih =>
      obtain ⟨first, rest⟩ := List.forall_mem_cons.mp snake
      have ih := ih rest
      rw [List.map_cons, wordsOf]
      obtain ⟨w, ws, later⟩ := List.exists_cons_of_ne_nil (wordsOf_ne_nil (cs.map fun c => [c]))
      rw [later] at ih ⊢
      by_cases separator : c = '_'
      · rw [if_pos ((isSeparator_iff first).mpr separator), separated_of_not_meets,
          List.map_cons, List.intercalate_cons_of_ne_nil (by simp), ih, separator]
        · rfl
        · rintro ⟨d, _, meets⟩
          rw [separator] at meets
          rcases meets with ⟨letter, _⟩ | ⟨digit, _⟩ <;> contradiction
      · rw [if_neg (mt (isSeparator_iff first).mp separator)]
        by_cases meets : ∃ d ∈ cs.head?, Meets c d
        · rw [if_pos ((endsBefore_eq_iff first rest).mpr meets), separated_of_meets meets,
            List.map_cons, List.intercalate_cons_of_ne_nil (by simp), ih]
          rfl
        · rw [if_neg (mt (endsBefore_eq_iff first rest).mp meets), separated_of_not_meets meets,
            intercalate_extendFirst, ih]

/-- In snake case the words of a name, joined again, are the name but for the underscores between
letters and digits. -/
private theorem snake_eq {name : String} (snake : ∀ c ∈ name.toList, isSnakeChar c = true) :
    Text.snake name = String.ofList (separated name.toList) := by
  have alone : ∀ c ∈ name.toList, StandsAlone c := fun c member =>
    standsAlone_of_ascii (ascii_of_isSnakeChar (snake c member))
  have lowered : ∀ w ∈ wordsOf (name.toList.map fun c => [c]), lowerWord w = w.flatten := by
    intro w member
    have within : ∀ c ∈ w.flatten, c ∈ name.toList := by
      intro c inside
      obtain ⟨cluster, inWord, inside⟩ := List.mem_flatten.mp inside
      obtain ⟨d, declared, rfl⟩ := List.mem_map.mp (mem_of_mem_wordsOf member cluster inWord)
      obtain rfl := List.mem_singleton.mp inside
      exact declared
    exact lower_eq (fun c inside => alone c (within c inside)) fun c inside =>
      isUpper_of_isSnakeChar (snake c (within c inside))
  rw [Text.snake, words, clusters_eq alone, List.map_congr_left lowered, intercalate_wordsOf snake]

theorem mem_separated_iff {cs : List Char} {c : Char} :
    c ∈ separated cs ↔ c ∈ cs ∨ c = '_' ∧ ¬ cs.IsChain (¬ Meets · ·) := by
  induction cs with
  | nil => simp [separated]
  | cons d cs ih =>
      rw [List.isChain_cons]
      by_cases meets : ∃ e ∈ cs.head?, Meets d e
      · have broken : ¬ ∀ e ∈ cs.head?, ¬ Meets d e := by
          simpa using meets
        rw [separated_of_meets meets]
        simp only [List.mem_cons, ih, broken, false_and, not_false_eq_true, and_true]
        tauto
      · have whole : ∀ e ∈ cs.head?, ¬ Meets d e := by
          simpa using meets
        rw [separated_of_not_meets meets]
        simp only [List.mem_cons, ih, or_assoc]
        tauto

theorem separated_eq_self_iff {cs : List Char} :
    separated cs = cs ↔ cs.IsChain (¬ Meets · ·) := by
  induction cs with
  | nil => simp [separated]
  | cons c cs ih =>
      rw [List.isChain_cons]
      by_cases meets : ∃ d ∈ cs.head?, Meets c d
      · rw [separated_of_meets meets]
        obtain ⟨d, next, meets⟩ := meets
        refine iff_of_false (fun same => ?_) fun whole => whole.1 d next meets
        -- What meets a letter or a digit is no underscore.
        have mark : some '_' = cs.head? := congrArg List.head? (List.cons.inj same).2
        obtain rfl : '_' = d := Option.some.inj (mark.trans next)
        rcases meets with ⟨_, digit⟩ | ⟨_, letter⟩ <;> contradiction
      · have whole : ∀ d ∈ cs.head?, ¬ Meets c d := by
          simpa using meets
        rw [separated_of_not_meets meets, List.cons_inj_right, ih]
        exact (and_iff_right whole).symm

private theorem head?_separated (cs : List Char) : (separated cs).head? = cs.head? := by
  cases cs with
  | nil => rfl
  | cons c cs =>
      rw [separated]
      split <;> rfl

private theorem exists_digit_of_not_isChain {cs : List Char} (broken : ¬ cs.IsChain (¬ Meets · ·)) :
    ∃ c ∈ cs, c.isDigit = true := by
  by_contra none
  push Not at none
  refine broken (List.pairwise_of_forall_mem_list fun c inside d other => ?_).isChain
  rintro (⟨_, digit⟩ | ⟨digit, _⟩)
  · exact none d other digit
  · exact none c inside digit

end Text

namespace Rust

/-- Segments of small letters and digits with an underscore between every two of them, and a letter
in front. -/
structure IsSnakeCase (name : String) : Prop where
  segments : ∀ segment ∈ Text.splitOn '_' name,
    segment ≠ "" ∧ ∀ c ∈ segment.toList, c.isLower = true ∨ c.isDigit = true
  letterFirst : ∃ c ∈ name.toList.head?, c.isLower = true

instance (name : String) : Decidable (IsSnakeCase name) :=
  decidable_of_iff (((Text.splitOn '_' name).all fun segment =>
      segment != "" && segment.toList.all fun c => c.isLower || c.isDigit) = true ∧
        name.toList.head?.any Char.isLower = true) (by
    rw [Option.any_eq_true]
    simp only [List.all_eq_true, Bool.and_eq_true, bne_iff_ne, Bool.or_eq_true]
    exact ⟨fun ⟨segments, letterFirst⟩ => ⟨segments, letterFirst⟩,
      fun ⟨segments, letterFirst⟩ => ⟨segments, letterFirst⟩⟩)

/-- How the field of a given name is written: as it is, raw if the name is a keyword, and with an
underscore behind it where it cannot be raw. -/
def fieldName (name : String) : String :=
  if name ∈ ["crate", "self", "super"] then name ++ "_"
  else if name ∈ keywords then "r#" ++ name
  else name

variable {name : String}

private theorem IsSnakeCase.isSnakeChar (snake : IsSnakeCase name) :
    ∀ c ∈ name.toList, Text.isSnakeChar c = true := by
  intro c member
  rcases Text.mem_pieces_of_mem '_' member with rfl | ⟨piece, found, inside⟩
  · rfl
  · have segment : String.ofList piece ∈ Text.splitOn '_' name := List.mem_map_of_mem found
    have kinds := (snake.segments _ segment).2 c (by rwa [String.toList_ofList])
    rcases kinds with letter | digit
    · simp [Text.isSnakeChar, letter]
    · simp [Text.isSnakeChar, digit]

private theorem isIdentifierStart_of_isLower {c : Char} (letter : c.isLower = true) :
    isIdentifierStart c = true := by
  have alpha : c.isAlpha = true := Bool.or_eq_true_iff.mpr (.inr letter)
  simp [isIdentifierStart, alpha]

section Spelling

variable (snake : ∀ c ∈ name.toList, Text.isSnakeChar c = true)
  (letterFirst : ∃ c ∈ name.toList.head?, c.isLower = true)

private theorem ne_of_letterFirst {other : String} {c : Char} (head : other.toList.head? = some c)
    (capital : c.isLower = false) (letterFirst : ∃ c ∈ name.toList.head?, c.isLower = true) :
    name ≠ other := by
  rintro rfl
  obtain ⟨d, first, letter⟩ := letterFirst
  rw [head] at first
  obtain rfl := Option.some.inj first
  rw [capital] at letter
  cases letter

include letterFirst

private theorem escape_eq : escape name = fieldName name := by
  have other : name ≠ "Self" := ne_of_letterFirst (c := 'S') rfl rfl letterFirst
  simp [escape, fieldName, other]

include snake

private theorem isIdentifier_of_snake : isIdentifier name.toList = true := by
  obtain ⟨c, first, letter⟩ := letterFirst
  cases text : name.toList with
  | nil =>
      rw [text] at first
      cases first
  | cons d cs =>
      rw [text] at first snake
      obtain rfl : d = c := Option.some.inj first
      rw [isIdentifier, Bool.and_eq_true, List.all_eq_true]
      refine ⟨isIdentifierStart_of_isLower letter, fun e member => ?_⟩
      have kinds := snake e (List.mem_cons_of_mem _ member)
      simp only [Text.isSnakeChar, Bool.or_eq_true, beq_iff_eq] at kinds
      rcases kinds with (small | digit) | rfl
      · simp [isIdentifierTail, isIdentifierStart_of_isLower small]
      · simp [isIdentifierTail, digit]
      · rfl

private theorem identifier_of_snake : identifier name = .ok (.word name) := by
  have plain : Text.after? "r#" name = none := by
    refine Text.after?_eq_none_iff.mpr fun rest raw => ?_
    have mark := snake '#' (by rw [raw]; simp)
    cases mark
  rw [identifier, plain]
  simp [isIdentifier_of_snake snake letterFirst]

private theorem identifier_escape : identifier (escape name) = .ok (.word (escape name)) := by
  have blank : name ≠ "_" := ne_of_letterFirst (c := '_') rfl rfl letterFirst
  unfold escape
  split
  · apply identifier_of_snake
    · simpa [or_imp, forall_and] using ⟨snake, rfl⟩
    · obtain ⟨c, first, letter⟩ := letterFirst
      exact ⟨c, by simp [List.head?_append, Option.mem_def.mp first], letter⟩
  · rename_i special
    split
    · rw [identifier, Text.after?_eq_some_iff.mpr rfl]
      have raw : isNeverRaw name = false := by
        simp_all [isNeverRaw]
      simp [isIdentifier_of_snake snake letterFirst, raw]
    · exact identifier_of_snake snake letterFirst

end Spelling

private theorem escape_of_not_mem (other : name ∉ keywords) : escape name = name := by
  have special : name ∉ ["crate", "self", "super", "Self"] := by
    have keyword : ∀ word ∈ ["crate", "self", "super", "Self"], word ∈ keywords := by decide
    exact fun member => other (keyword name member)
  rw [escape, if_neg (by simpa using special), if_neg (by simpa using other)]

private theorem not_mem_keywords_of_digit {c : Char} (digit : c.isDigit = true)
    (member : c ∈ name.toList) :
    name ∉ keywords := by
  have letters : ∀ word ∈ keywords, word.toList.all (!·.isDigit) = true := by decide
  intro keyword
  have plain := List.all_eq_true.mp (letters name keyword) c member
  rw [digit] at plain
  cases plain

/-- A field in snake case goes by its own name, raw or with an underscore behind it if need be,
exactly if no letter of it meets a digit; at each place where one does its identifier has one more
underscore. -/
theorem fieldIdentifier_kept_iff (snake : IsSnakeCase name) :
    fieldIdentifier name = .ok (.word (fieldName (String.ofList (Text.separated name.toList)))) ∧
      (fieldIdentifier name = .ok (.word (fieldName name)) ↔
        name.toList.IsChain fun c d => ¬ Text.Meets c d) := by
  have chars := snake.isSnakeChar
  generalize written : String.ofList (Text.separated name.toList) = spread
  have text : spread.toList = Text.separated name.toList := by
    rw [← written, String.toList_ofList]
  have spreadChars : ∀ c ∈ spread.toList, Text.isSnakeChar c = true := by
    intro c member
    rw [text, Text.mem_separated_iff] at member
    rcases member with inside | ⟨rfl, _⟩
    · exact chars c inside
    · rfl
  have spreadFirst : ∃ c ∈ spread.toList.head?, c.isLower = true := by
    rw [text, Text.head?_separated]
    exact snake.letterFirst
  have spelled : fieldIdentifier name = .ok (.word (fieldName spread)) := by
    rw [fieldIdentifier, Text.snake_eq chars, written, identifier_escape spreadChars spreadFirst,
      escape_eq spreadFirst]
  refine ⟨spelled, ?_⟩
  rw [spelled, Except.ok.injEq, Token.word.injEq, ← Text.separated_eq_self_iff, ← text,
    String.toList_inj]
  constructor
  · intro same
    by_contra changed
    -- A name that is changed has a digit in it, so that neither form of it is a keyword.
    have broken : ¬ name.toList.IsChain fun c d => ¬ Text.Meets c d := by
      rw [← Text.separated_eq_self_iff, ← text, String.toList_inj]
      exact changed
    obtain ⟨c, member, digit⟩ := Text.exists_digit_of_not_isChain broken
    have inSpread : c ∈ spread.toList := by
      rw [text]
      exact Text.mem_separated_iff.mpr (.inl member)
    rw [← escape_eq spreadFirst, ← escape_eq snake.letterFirst,
      escape_of_not_mem (not_mem_keywords_of_digit digit inSpread),
      escape_of_not_mem (not_mem_keywords_of_digit digit member)] at same
    exact changed same
  · rintro rfl
    rfl

theorem snake_fieldIdentifiers :
    (IsSnakeCase "mail_address" ∧ fieldIdentifier "mail_address" = .ok (.word "mail_address")) ∧
    (IsSnakeCase "type" ∧ fieldIdentifier "type" = .ok (.word "r#type")) ∧
    (IsSnakeCase "self" ∧ fieldIdentifier "self" = .ok (.word "self_")) ∧
    (IsSnakeCase "line_1" ∧ fieldIdentifier "line_1" = .ok (.word "line_1")) ∧
    IsSnakeCase "ipv4_addr" ∧ fieldIdentifier "ipv4_addr" = .ok (.word "ipv_4_addr") := by
  have mail : IsSnakeCase "mail_address" := by decide
  have type : IsSnakeCase "type" := by decide
  have self : IsSnakeCase "self" := by decide
  have line : IsSnakeCase "line_1" := by decide
  have ipv4 : IsSnakeCase "ipv4_addr" := by decide
  have spread : fieldName (String.ofList (Text.separated "ipv4_addr".toList)) = "ipv_4_addr" := by
    decide
  exact ⟨⟨mail, (fieldIdentifier_kept_iff mail).2.mpr (by decide)⟩,
    ⟨type, (fieldIdentifier_kept_iff type).2.mpr (by decide)⟩,
    ⟨self, (fieldIdentifier_kept_iff self).2.mpr (by decide)⟩,
    ⟨line, (fieldIdentifier_kept_iff line).2.mpr (by decide)⟩,
    ipv4, spread ▸ (fieldIdentifier_kept_iff ipv4).1⟩

/-- A field with a digit behind a letter goes by another name than its own. -/
theorem address2_renamed :
    IsSnakeCase "address2" ∧ fieldName "address2" = "address2" ∧
      fieldIdentifier "address2" = .ok (.word "address_2") ∧
      fieldIdentifier "address2" ≠ .ok (.word (fieldName "address2")) := by
  have renamed : fieldIdentifier "address2" = .ok (.word "address_2") := rfl
  refine ⟨by decide, by decide, renamed, ?_⟩
  rw [renamed, ne_eq, Except.ok.injEq, Token.word.injEq]
  decide

end Rust

end ProtoRules
