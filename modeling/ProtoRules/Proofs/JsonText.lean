import Mathlib.Data.List.TakeDrop
import ProtoRules.Json.Printer
import ProtoRules.Proofs.JsonParts
import ProtoRules.Proofs.NumberText
import ProtoRules.Proofs.Texts

/-!
JSON text that is written and read again. A value without floats comes back from its text, provided
that it is not nested deeper than the reader goes.
-/

namespace ProtoRules.Json

theorem hexDigit?_digitChar : ∀ n < 16, hexDigit? (Nat.digitChar n) = some n := by
  decide

private theorem hex4?_hexDigits {n : Nat} (small : n < 256) :
    hex4? '0' '0' (Nat.digitChar (n / 16)) (Nat.digitChar (n % 16)) = some n := by
  have high := hexDigit?_digitChar (n / 16) (by omega)
  have low := hexDigit?_digitChar (n % 16) (by omega)
  have zero : hexDigit? '0' = some 0 := hexDigit?_digitChar 0 (by decide)
  simp only [hex4?, zero, high, low, Option.bind_eq_bind, Option.bind_some, Option.pure_def]
  congr 1
  omega

/-- A unit that stands for a character whatever follows it. -/
def Unit16.Stands (u : Unit16) (c : Char) : Prop :=
  ∀ us, pairUnits? (u :: us) = (pairUnits? us).map (c :: ·)

private theorem Unit16.stands_char (c : Char) : (Unit16.char c).Stands c :=
  fun _ => by rw [pairUnits?]

theorem Unit16.stands_unit {c : Char} (single : c.toNat < 0x10000) :
    (Unit16.unit c.toNat).Stands c := by
  intro us
  have valid : c.toNat < 0xD800 ∨ 0xDFFF < c.toNat ∧ c.toNat < 0x110000 := c.valid
  have plain : ¬ (0xD800 ≤ c.toNat ∧ c.toNat < 0xE000) := by omega
  cases us with
  | nil => simp only [pairUnits?, if_neg plain, Char.ofNat_toNat]
  | cons u us =>
      cases u with
      | char d => simp only [pairUnits?, if_neg plain, Char.ofNat_toNat]
      | unit n =>
          have first : ¬ (0xD800 ≤ c.toNat ∧ c.toNat < 0xDC00 ∧ 0xDC00 ≤ n ∧ n < 0xE000) := by omega
          simp only [pairUnits?, if_neg plain, if_neg first, Char.ofNat_toNat]

private theorem readUnits_cons {c : Char} (quote : c ≠ '"') (backslash : c ≠ '\\')
    (visible : ¬ c.toNat < 0x20) (cs : List Char) :
    readUnits (c :: cs) = (readUnits cs).map fun read => (.char c :: read.1, read.2) := by
  rw [readUnits.eq_def]
  split
  · rename_i same
    exact absurd (List.cons.inj same).1 quote
  · rename_i same
    exact absurd (List.cons.inj same).1 backslash
  · rename_i same
    exact absurd (List.cons.inj same).1 backslash
  · rename_i same
    cases same
    rw [if_neg visible]
    cases readUnits cs <;> rfl
  · rename_i same
    cases same

private theorem readUnits_escape (c : Char) : ∃ u : Unit16, u.Stands c ∧
    ∀ cs, readUnits (escape c ++ cs) = (readUnits cs).map fun read => (u :: read.1, read.2) := by
  -- A character that is written as a backslash and one letter.
  have letter {e : Char} (notHex : e ≠ 'u') (meaning : escaped? e = some c) :
      ∀ cs, readUnits ('\\' :: e :: cs) =
        (readUnits cs).map fun read => (Unit16.char c :: read.1, read.2) := by
    intro cs
    rw [readUnits.eq_def]
    split
    · rename_i same
      cases same
    · rename_i same
      cases same
      exact absurd rfl notHex
    · rename_i same
      cases same
      simp only [meaning, Option.bind_eq_bind, Option.bind_some, Option.pure_def]
      cases readUnits cs <;> rfl
    · rename_i plain same
      cases same
      exact absurd rfl (plain e cs rfl)
    · rename_i same
      cases same
  rw [escape.eq_def]
  split
  · exact ⟨_, Unit16.stands_char _, letter (by decide) rfl⟩
  · exact ⟨_, Unit16.stands_char _, letter (by decide) rfl⟩
  · exact ⟨_, Unit16.stands_char _, letter (by decide) rfl⟩
  · exact ⟨_, Unit16.stands_char _, letter (by decide) rfl⟩
  · exact ⟨_, Unit16.stands_char _, letter (by decide) rfl⟩
  · exact ⟨_, Unit16.stands_char _, letter (by decide) rfl⟩
  · exact ⟨_, Unit16.stands_char _, letter (by decide) rfl⟩
  · rename_i quote backslash _ _ _ _ _
    split
    · rename_i control
      refine ⟨_, Unit16.stands_unit (by omega), fun cs => ?_⟩
      have code := hex4?_hexDigits (n := c.toNat) (by omega)
      simp only [hexDigits, List.cons_append, List.nil_append]
      rw [readUnits, code]
      cases readUnits cs <;> rfl
    · rename_i visible
      exact ⟨_, Unit16.stands_char c, readUnits_cons quote backslash visible⟩

private theorem readUnits_quoted (cs rest : List Char) : ∃ us,
    readUnits (cs.flatMap escape ++ '"' :: rest) = some (us, rest) ∧ pairUnits? us = some cs := by
  induction cs with
  | nil => exact ⟨[], by rw [List.flatMap_nil, List.nil_append, readUnits], rfl⟩
  | cons c cs ih =>
      obtain ⟨us, read, paired⟩ := ih
      obtain ⟨u, stands, first⟩ := readUnits_escape c
      refine ⟨u :: us, ?_, ?_⟩
      · rw [List.flatMap_cons, List.append_assoc, first, read]
        rfl
      · rw [stands, paired]
        rfl

private theorem readText_quoted (s : String) (rest : List Char) :
    readText (s.toList.flatMap escape ++ '"' :: rest) = some (some s, rest) := by
  obtain ⟨us, read, paired⟩ := readUnits_quoted s.toList rest
  simp only [readText, read, paired, Option.bind_eq_bind, Option.bind_some, Option.pure_def,
    Option.map_some, String.ofList_toList]

private theorem toList_quote (s : String) :
    (quote s).toList = '"' :: (s.toList.flatMap escape ++ ['"']) := by
  rw [quote, String.toList_ofList]
  rfl

/-- What may follow a value: nothing, or what separates or closes. -/
def Follows (rest : List Char) : Prop :=
  ∀ c ∈ rest.head?, c ∈ [',', ']', '}']

private theorem Follows.not_isDigit {rest : List Char} (follows : Follows rest) :
    ∀ c ∈ rest.head?, c.isDigit = false := by
  intro c head
  have separator := follows c head
  simp only [List.mem_cons, List.not_mem_nil, or_false] at separator
  rcases separator with rfl | rfl | rfl
  · rfl
  · rfl
  · rfl

private theorem span_digits {digits rest : List Char} (all : ∀ c ∈ digits, c.isDigit = true)
    (stop : ∀ c ∈ rest.head?, c.isDigit = false) :
    (digits ++ rest).span Char.isDigit = (digits, rest) := by
  have none : rest.takeWhile Char.isDigit = [] := by
    cases rest with
    | nil => rfl
    | cons c rest => rw [List.takeWhile_cons_of_neg (by simp [stop c rfl])]
  rw [List.span_eq_takeWhile_dropWhile, Text.dropWhile_append_of_stop all stop,
    List.takeWhile_append_of_pos all, none, List.append_nil]

private theorem le_ofDigitChars (cs : List Char) (n : Nat) : n ≤ Nat.ofDigitChars 10 cs n := by
  induction cs generalizing n with
  | nil => exact Nat.le_refl n
  | cons c cs ih =>
      have grown := ih (10 * n + (c.toNat - '0'.toNat))
      rw [Nat.ofDigitChars_cons]
      omega

private theorem appendDigits_of_lt {n : Nat} {cs : List Char}
    (fits : Nat.ofDigitChars 10 cs n < IntFormat.count 64) :
    appendDigits n cs = (Nat.ofDigitChars 10 cs n, cs.length) := by
  induction cs generalizing n with
  | nil => rfl
  | cons c cs ih =>
      rw [Nat.ofDigitChars_cons, Nat.mul_comm] at fits
      have first := le_ofDigitChars cs (n * 10 + digit c)
      have read := @ih (n * 10 + digit c) fits
      rw [appendDigits, if_pos (Nat.lt_of_le_of_lt first fits), read, Nat.ofDigitChars_cons,
        Nat.mul_comm 10]
      rfl

theorem isDigit_of_mem_toDigits {n : Nat} : ∀ c ∈ Nat.toDigits 10 n, c.isDigit = true :=
  fun _ member => Nat.isDigit_of_mem_toDigits (by decide) (by decide) member

private theorem readWhole_toDigits (n : Nat) {rest : List Char} (follows : Follows rest) :
    readWhole (Nat.toDigits 10 n ++ rest) = some (Nat.toDigits 10 n, rest) := by
  have stop := follows.not_isDigit
  cases n with
  | zero =>
      have alone : (rest.head?.map Char.isDigit) ≠ some true := by
        intro digit
        obtain ⟨c, head, isDigit⟩ := Option.map_eq_some_iff.mp digit
        exact absurd isDigit (by simp [stop c head])
      exact if_neg alone
  | succ n =>
      have whole := span_digits (isDigit_of_mem_toDigits (n := n + 1)) stop
      have leading := head?_toDigits n.succ_pos
      rw [readWhole.eq_def]
      split
      · rename_i cs same
        have head := congrArg List.head? same
        rw [List.head?_append_of_ne_nil _ Nat.toDigits_ne_nil] at head
        exact absurd head leading
      · rw [whole, if_neg Nat.toDigits_ne_nil]

private theorem readFraction_of_follows {rest : List Char} (follows : Follows rest) :
    readFraction rest = some (none, rest) := by
  rw [readFraction.eq_def]
  split
  · exact absurd (follows '.' rfl) (by decide)
  · rfl

private theorem readExponent_of_follows {rest : List Char} (follows : Follows rest) :
    readExponent rest = some (none, rest) := by
  rw [readExponent.eq_def]
  split
  · exact absurd (follows 'e' rfl) (by decide)
  · exact absurd (follows 'E' rfl) (by decide)
  · rfl

private theorem value_toDigits (negative : Bool) {n : Nat} (fits : n < IntFormat.count 64) :
    Written.value ⟨negative, Nat.toDigits 10 n, none, none⟩ = integerValue negative n := by
  have value : Nat.ofDigitChars 10 (Nat.toDigits 10 n) 0 = n :=
    Nat.ofDigitChars_toDigits (by decide) (by decide)
  have digits := appendDigits_of_lt (n := 0) (value.symm ▸ fits)
  rw [value] at digits
  simp [Written.value, digits]

private theorem readSign_toDigits (n : Nat) (rest : List Char) :
    readSign (Nat.toDigits 10 n ++ rest) = (false, Nat.toDigits 10 n ++ rest) := by
  rw [readSign.eq_def]
  split
  · rename_i cs same
    have head := congrArg List.head? same
    rw [List.head?_append_of_ne_nil _ Nat.toDigits_ne_nil] at head
    have digit := isDigit_of_mem_toDigits '-' (List.mem_of_head? head)
    exact absurd digit (by decide)
  · rfl

private theorem readNumber_toDigits {n : Nat} (fits : n < IntFormat.count 64) {rest : List Char}
    (follows : Follows rest) :
    readNumber (Nat.toDigits 10 n ++ rest) = some (integerValue false n, rest) := by
  simp only [readNumber, readSign_toDigits, readWhole_toDigits n follows,
    readFraction_of_follows follows, readExponent_of_follows follows, value_toDigits false fits,
    Option.bind_eq_bind, Option.bind_some, Option.pure_def]

private theorem readNumber_negative {n : Nat} (fits : n < IntFormat.count 64) {rest : List Char}
    (follows : Follows rest) :
    readNumber ('-' :: (Nat.toDigits 10 n ++ rest)) = some (integerValue true n, rest) := by
  simp only [readNumber, readSign, readWhole_toDigits n follows, readFraction_of_follows follows,
    readExponent_of_follows follows, value_toDigits true fits, Option.bind_eq_bind,
    Option.bind_some, Option.pure_def]

private theorem readNumber_toString {n : Int} (ranged : Ranged n) {rest : List Char}
    (follows : Follows rest) : readNumber ((toString n).toList ++ rest) = some (int n, rest) := by
  obtain ⟨low, high⟩ := ranged
  cases n with
  | ofNat n =>
      have text : (toString (Int.ofNat n)).toList = Nat.toDigits 10 n := toList_toString_natCast n
      rw [text, readNumber_toDigits (Int.ofNat_lt.mp high) follows]
      rfl
  | negSucc n =>
      have small : n + 1 ≤ IntFormat.count 63 := by omega
      have fits : n + 1 < IntFormat.count 64 := by
        have double : IntFormat.count 64 = 2 * IntFormat.count 63 := IntFormat.count_succ 63
        have positive := IntFormat.count_pos 63
        omega
      -- Minus zero and what is below the least integer are read as floats; this is neither.
      have negative : ¬ (n + 1 = 0 ∨ IntFormat.count 63 < n + 1) := by omega
      rw [toList_toString_negSucc, List.cons_append, readNumber_negative fits follows, integerValue]
      simp only [Bool.not_true, Bool.false_eq_true, if_false, if_neg negative]
      rfl

private theorem renderItems_eq_map (items : List Json) : renderItems items = items.map render := by
  induction items with
  | nil => rfl
  | cons j js ih => rw [renderItems, ih, List.map_cons]

private theorem renderMembers_eq_map (members : List Member) :
    renderMembers members = members.map fun m => quote m.1 ++ ":" ++ m.2.render := by
  induction members with
  | nil => rfl
  | cons m ms ih =>
      obtain ⟨key, j⟩ := m
      rw [renderMembers, ih, List.map_cons]

private theorem skipSpace_cons {c : Char} (visible : isSpace c = false) (cs : List Char) :
    skipSpace (c :: cs) = c :: cs :=
  List.dropWhile_cons_of_neg (by simp [visible])

/-- A text begins neither with space nor with what closes a list. -/
def Begins (cs : List Char) : Prop :=
  ∃ c rest, cs = c :: rest ∧ isSpace c = false ∧ c ≠ ']'

theorem Begins.append {cs : List Char} (begins : Begins cs) (rest : List Char) :
    Begins (cs ++ rest) := by
  obtain ⟨c, tail, rfl, visible, opens⟩ := begins
  exact ⟨c, tail ++ rest, rfl, visible, opens⟩

/-- A value is read back from its text at some level, whatever follows it. -/
structure Reads (level : Nat) (j : Json) : Prop where
  begins : Begins j.render.toList
  read : ∀ fuel rest, 2 * j.render.toList.length ≤ fuel → Follows rest →
    readValue fuel level (j.render.toList ++ rest) = some (j, rest)

private theorem exists_fuel {fuel : Nat} {c : Char} {cs : List Char}
    (enough : 2 * (c :: cs).length ≤ fuel) : ∃ f, fuel = f + 1 ∧ 2 * cs.length + 1 ≤ f := by
  rw [List.length_cons] at enough
  exact ⟨fuel - 1, by omega, by omega⟩

/-! Scalars. -/

private theorem toString_starts (n : Int) :
    ∃ c cs, (toString n).toList = c :: cs ∧ (c = '-' ∨ c.isDigit = true) := by
  cases text : (toString n).toList with
  | nil =>
      cases n with
      | ofNat n =>
          have digits : (toString (Int.ofNat n)).toList = Nat.toDigits 10 n :=
            toList_toString_natCast n
          exact absurd (digits.symm.trans text) Nat.toDigits_ne_nil
      | negSucc n => cases (toList_toString_negSucc n).symm.trans text
  | cons c cs => exact ⟨c, cs, rfl, mem_toString (text ▸ List.mem_cons_self)⟩

section Number

variable {c : Char} (starts : c = '-' ∨ c.isDigit = true)
include starts

private theorem ne_of_starts {d : Char} (letter : d ≠ '-') (digit : d.isDigit = false) : c ≠ d := by
  intro same
  subst same
  exact starts.elim letter (by simp [digit])

private theorem isSpace_of_starts : isSpace c = false := by
  have blank := ne_of_starts starts (d := ' ') (by decide) (by decide)
  have line := ne_of_starts starts (d := '\n') (by decide) (by decide)
  have tab := ne_of_starts starts (d := '\t') (by decide) (by decide)
  have feed := ne_of_starts starts (d := '\r') (by decide) (by decide)
  simp [isSpace, blank, line, tab, feed]

private theorem readValue_number {fuel level : Nat} {cs : List Char} :
    readValue (fuel + 1) level (c :: cs) = readNumber (c :: cs) := by
  rw [readValue, skipSpace_cons (isSpace_of_starts starts)]
  split
  case h_7 => rfl
  all_goals
    rename_i same
    exact absurd (List.cons.inj same).1 (ne_of_starts starts (by decide) (by decide))

end Number

private theorem reads_null (level : Nat) : Reads level .null where
  begins := ⟨'n', _, rfl, by decide, by decide⟩
  read fuel rest enough follows := by
    obtain ⟨fuel, rfl, _⟩ := exists_fuel enough
    rfl

private theorem reads_bool (b : Bool) (level : Nat) : Reads level (.bool b) := by
  cases b with
  | true =>
      refine ⟨⟨'t', _, rfl, by decide, by decide⟩, fun fuel rest enough follows => ?_⟩
      obtain ⟨fuel, rfl, _⟩ := exists_fuel enough
      rfl
  | false =>
      refine ⟨⟨'f', _, rfl, by decide, by decide⟩, fun fuel rest enough follows => ?_⟩
      obtain ⟨fuel, rfl, _⟩ := exists_fuel enough
      rfl

private theorem reads_int {n : Int} (ranged : Ranged n) (level : Nat) : Reads level (.int n) := by
  obtain ⟨c, cs, text, starts⟩ := toString_starts n
  have opens := ne_of_starts starts (d := ']') (by decide) (by decide)
  refine ⟨⟨c, cs, text, isSpace_of_starts starts, opens⟩, fun fuel rest enough follows => ?_⟩
  have read := readNumber_toString ranged follows
  rw [text] at read
  rw [render, text] at enough ⊢
  obtain ⟨fuel, rfl, _⟩ := exists_fuel enough
  exact (readValue_number starts).trans read

private theorem reads_str (s : String) (level : Nat) : Reads level (.str s) := by
  have text := toList_quote s
  refine ⟨⟨'"', _, text, by decide, by decide⟩, fun fuel rest enough follows => ?_⟩
  rw [render, text] at enough ⊢
  obtain ⟨fuel, rfl, _⟩ := exists_fuel enough
  rw [List.cons_append, List.append_assoc, readValue, skipSpace_cons (by decide)]
  simp only [List.cons_append, List.nil_append, readText_quoted, Option.bind_eq_bind,
    Option.bind_some, Option.pure_def, Option.elim_some]

/-! Containers. Every step of the reader takes at least one character, so twice the length of a text
bounds the steps. -/

/-- Texts one after the other, with commas in between. -/
def separated : List (List Char) → List Char
  | [] => []
  | [text] => text
  | text :: texts => text ++ ',' :: separated texts

theorem toList_intercalate (texts : List String) :
    (",".intercalate texts).toList = separated (texts.map String.toList) := by
  induction texts with
  | nil => rfl
  | cons s texts ih =>
      cases texts with
      | nil => rw [String.intercalate_singleton]; rfl
      | cons t texts =>
          rw [String.intercalate_cons_cons, String.toList_append, String.toList_append, ih,
            List.append_assoc]
          rfl

private theorem follows_cons {c : Char} (separator : c ∈ [',', ']', '}']) (rest : List Char) :
    Follows (c :: rest) := by
  intro d head
  cases head
  exact separator

def itemsText (items : List Json) : List Char :=
  separated (items.map fun j => j.render.toList)

def memberText (m : Member) : List Char :=
  (quote m.1).toList ++ ':' :: m.2.render.toList

def membersText (members : List Member) : List Char :=
  separated (members.map memberText)

private theorem toList_render_arr (items : List Json) :
    (arr items).render.toList = '[' :: (itemsText items ++ [']']) := by
  rw [render, renderItems_eq_map, String.toList_append, String.toList_append, toList_intercalate,
    List.map_map, itemsText]
  rfl

private theorem toList_render_obj (members : List Member) :
    (obj members).render.toList = '{' :: (membersText members ++ ['}']) := by
  have each : (String.toList ∘ fun m : Member => quote m.1 ++ ":" ++ m.2.render) = memberText := by
    funext m
    rw [Function.comp_apply, String.toList_append, String.toList_append, List.append_assoc]
    rfl
  rw [render, braced, renderMembers_eq_map, String.toList_append, String.toList_append,
    toList_intercalate,
    List.map_map, membersText, each]
  rfl

section Steps

variable {fuel level : Nat} {cs rest after : List Char}

private theorem readItems_last {j : Json}
    (first : readValue fuel level cs = some (j, ']' :: rest)) :
    readItems (fuel + 1) level cs = some ([j], rest) := by
  rw [readItems, first]
  rfl

private theorem readItems_more {j : Json} {js : List Json}
    (first : readValue fuel level cs = some (j, ',' :: rest))
    (others : readItems fuel level rest = some (js, after)) :
    readItems (fuel + 1) level cs = some (j :: js, after) := by
  rw [readItems, first]
  simp only [Option.bind_eq_bind, Option.bind_some, skipSpace_cons (c := ',') (by decide), others]
  rfl

private theorem readMembers_last {key : String} {j : Json}
    (first : readValue fuel level cs = some (j, '}' :: rest)) :
    readMembers (fuel + 1) level ((quote key).toList ++ ':' :: cs) =
      some (some [(key, j)], rest) := by
  rw [toList_quote, List.cons_append, List.append_assoc, readMembers, skipSpace_cons (by decide)]
  simp only [List.cons_append, List.nil_append, readText_quoted, Option.bind_eq_bind,
    Option.bind_some, skipSpace_cons (c := ':') (by decide), first]
  rfl

private theorem readMembers_more {key : String} {j : Json} {ms : List Member}
    (first : readValue fuel level cs = some (j, ',' :: rest))
    (others : readMembers fuel level rest = some (some ms, after)) :
    readMembers (fuel + 1) level ((quote key).toList ++ ':' :: cs) =
      some (some ((key, j) :: ms), after) := by
  rw [toList_quote, List.cons_append, List.append_assoc, readMembers, skipSpace_cons (by decide)]
  simp only [List.cons_append, List.nil_append, readText_quoted, Option.bind_eq_bind,
    Option.bind_some, skipSpace_cons (c := ':') (by decide), first,
    skipSpace_cons (c := ',') (by decide), others]
  rfl

private theorem readValue_arr {items : List Json} (begins : Begins cs)
    (read : readItems fuel (level + 1) cs = some (items, rest)) :
    readValue (fuel + 1) level ('[' :: cs) =
      some (if nestingLimit ≤ level then unreadable else arr items, rest) := by
  obtain ⟨c, tail, rfl, visible, opens⟩ := begins
  rw [readValue, skipSpace_cons (by decide)]
  simp only [skipSpace_cons visible]
  split
  · rename_i same
    exact absurd (List.cons.inj same).1 opens
  · rw [read]
    rfl

private theorem readValue_obj {members : List Member}
    (read : readMembers fuel (level + 1) ('"' :: cs) = some (some members, rest)) :
    readValue (fuel + 1) level ('{' :: '"' :: cs) =
      some (if nestingLimit ≤ level then unreadable else obj members, rest) := by
  rw [readValue, skipSpace_cons (by decide)]
  simp only [skipSpace_cons (c := '"') (by decide), read]
  rfl

end Steps

private theorem readItems_text {items : List Json} {level : Nat} (nonempty : items ≠ [])
    (each : ∀ j ∈ items, Reads level j) {fuel : Nat} {rest : List Char}
    (enough : 2 * (itemsText items).length + 1 ≤ fuel) :
    readItems fuel level (itemsText items ++ ']' :: rest) = some (items, rest) := by
  induction items generalizing fuel with
  | nil => exact absurd rfl nonempty
  | cons j js ih =>
      obtain ⟨fuel, rfl⟩ : ∃ f, fuel = f + 1 := ⟨fuel - 1, by omega⟩
      obtain ⟨reads, others⟩ := List.forall_mem_cons.mp each
      cases js with
      | nil =>
          refine readItems_last (reads.read fuel (']' :: rest) ?_ (follows_cons (by decide) rest))
          exact Nat.le_of_succ_le_succ enough
      | cons k js =>
          have text : itemsText (j :: k :: js) =
            j.render.toList ++ ',' :: itemsText (k :: js) := rfl
          rw [text, List.length_append, List.length_cons] at enough
          rw [text, List.append_assoc]
          refine readItems_more (reads.read fuel _ (by omega) (follows_cons (by decide) _)) ?_
          exact ih (List.cons_ne_nil k js) others (by omega)

private theorem readMembers_text {members : List Member} {level : Nat} (nonempty : members ≠ [])
    (each : ∀ m ∈ members, Reads level m.2) {fuel : Nat} {rest : List Char}
    (enough : 2 * (membersText members).length + 1 ≤ fuel) :
    readMembers fuel level (membersText members ++ '}' :: rest) =
      some (some members, rest) := by
  induction members generalizing fuel with
  | nil => exact absurd rfl nonempty
  | cons m ms ih =>
      obtain ⟨key, j⟩ := m
      obtain ⟨fuel, rfl⟩ : ∃ f, fuel = f + 1 := ⟨fuel - 1, by omega⟩
      obtain ⟨first, others⟩ := List.forall_mem_cons.mp each
      have reads : Reads level j := first
      cases ms with
      | nil =>
          have text : membersText [(key, j)] = (quote key).toList ++ ':' :: j.render.toList := rfl
          rw [text, List.length_append, List.length_cons] at enough
          rw [text, List.append_assoc]
          exact readMembers_last (reads.read fuel _ (by omega) (follows_cons (by decide) rest))
      | cons n ms =>
          have text : membersText ((key, j) :: n :: ms) =
              (quote key).toList ++ ':' :: j.render.toList ++ ',' :: membersText (n :: ms) := rfl
          rw [text, List.length_append, List.length_append, List.length_cons,
            List.length_cons] at enough
          rw [text, List.append_assoc, List.append_assoc]
          refine readMembers_more (reads.read fuel _ (by omega) (follows_cons (by decide) _)) ?_
          exact ih (List.cons_ne_nil n ms) others (by omega)

private theorem begins_itemsText {items : List Json} {level : Nat} (nonempty : items ≠ [])
    (each : ∀ j ∈ items, Reads level j) : Begins (itemsText items) := by
  cases items with
  | nil => exact absurd rfl nonempty
  | cons j js =>
      have begins := (each j List.mem_cons_self).begins
      cases js with
      | nil => exact begins
      | cons k js => exact begins.append _

private theorem membersText_cons (m : Member) (ms : List Member) :
    ∃ cs, membersText (m :: ms) = '"' :: cs := by
  have text := toList_quote m.1
  cases ms with
  | nil => exact ⟨_, congrArg (· ++ ':' :: m.2.render.toList) text⟩
  | cons n ms =>
      exact ⟨_, congrArg (· ++ ':' :: m.2.render.toList ++ ',' :: membersText (n :: ms)) text⟩

private theorem reads_arr {items : List Json} {level : Nat} (shallow : level < nestingLimit)
    (each : ∀ j ∈ items, Reads (level + 1) j) : Reads level (.arr items) := by
  have text := toList_render_arr items
  refine ⟨⟨'[', _, text, by decide, by decide⟩, fun fuel rest enough follows => ?_⟩
  rw [text] at enough ⊢
  obtain ⟨fuel, rfl, spare⟩ := exists_fuel enough
  rw [List.length_append] at spare
  rw [List.cons_append, List.append_assoc]
  have read : readValue (fuel + 1) level ('[' :: (itemsText items ++ ([']'] ++ rest))) =
      some (if nestingLimit ≤ level then unreadable else arr items, rest) := by
    by_cases empty : items = []
    · subst empty
      rfl
    · refine readValue_arr ((begins_itemsText empty each).append _) ?_
      exact readItems_text empty each (by omega)
  rw [read, if_neg (Nat.not_le.mpr shallow)]

private theorem reads_obj {members : List Member} {level : Nat} (shallow : level < nestingLimit)
    (each : ∀ m ∈ members, Reads (level + 1) m.2) : Reads level (.obj members) := by
  have text := toList_render_obj members
  refine ⟨⟨'{', _, text, by decide, by decide⟩, fun fuel rest enough follows => ?_⟩
  rw [text] at enough ⊢
  obtain ⟨fuel, rfl, spare⟩ := exists_fuel enough
  rw [List.length_append] at spare
  rw [List.cons_append, List.append_assoc]
  have read : readValue (fuel + 1) level ('{' :: (membersText members ++ (['}'] ++ rest))) =
      some (if nestingLimit ≤ level then unreadable else obj members, rest) := by
    cases members with
    | nil => rfl
    | cons m ms =>
        have whole : readMembers fuel (level + 1) (membersText (m :: ms) ++ '}' :: rest) =
            some (some (m :: ms), rest) :=
          readMembers_text (List.cons_ne_nil m ms) each (by omega)
        obtain ⟨cs, first⟩ := membersText_cons m ms
        rw [first] at whole ⊢
        exact readValue_obj whole
  rw [read, if_neg (Nat.not_le.mpr shallow)]

/-- What comes back from its text: no float, and no integer out of range. -/
def IsPlain (j : Json) : Prop :=
  j.IsRanged ∧ j ≠ .unreadable ∧ ∀ x, j ≠ .float x

private theorem reads_of_throughout {level : Nat} {j : Json}
    (all : Throughout (fun n i => i.IsPlain ∧ i.IsAllowed n) level j) : Reads level j := by
  induction all with
  | @intro level j here inside ih =>
      obtain ⟨⟨ranged, readable, noFloat⟩, allowed⟩ := here
      cases j with
      | null => exact reads_null level
      | bool b => exact reads_bool b level
      | int n => exact reads_int ranged level
      | float x => exact absurd rfl (noFloat x)
      | str s => exact reads_str s level
      | arr items => exact reads_arr (allowed rfl) ih
      | obj members =>
          exact reads_obj (allowed rfl) fun m listed => ih m.2 (List.mem_map_of_mem listed)
      | unreadable => exact absurd rfl readable

theorem parse_render {j : Json} (plain : Throughout (fun _ i => i.IsPlain) 0 j)
    (shallow : j.Shallow) : parse j.render = some j := by
  have reads : Reads 0 j := reads_of_throughout (plain.and shallow)
  have read := reads.read (2 * j.render.toList.length + 2) [] (by omega) nofun
  rw [List.append_nil] at read
  rw [parse, Option.bind_eq_bind, read]
  rfl

end ProtoRules.Json
