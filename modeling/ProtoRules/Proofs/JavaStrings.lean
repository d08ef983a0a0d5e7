import ProtoRules.Emit.JavaLiteral
import ProtoRules.Proofs.JsonText

/-!
String literals in Java source text. The text is first turned into code units, with Unicode escapes
replaced by what they stand for; a literal then takes the code units up to its closing quote, with
escape sequences replaced in turn. What is written for a text is read as the code units of the text.
-/

namespace ProtoRules.Java

/-- What goes before the next character: an odd or an even number of backslashes, or the beginning
of a Unicode escape, up to one of its letters. -/
inductive Scan
  | plain (odd : Bool)
  | escape

/-- The code units of source text. A backslash after an even number of them begins a Unicode escape
if a letter u follows; then there may be more such letters, and there have to be four digits. -/
def codeUnits? : Scan → List Char → Option (List Nat)
  | .plain _, [] => some []
  | .plain odd, c :: cs =>
    if c = '\\' ∧ odd = false ∧ cs.head? = some 'u' then codeUnits? .escape cs
    else (codeUnits? (.plain (c = '\\' ∧ odd = false)) cs).map (units16 c ++ ·)
  | .escape, 'u' :: cs => codeUnits? .escape cs
  | .escape, a :: b :: c :: d :: cs => do
    let unit ← Json.hex4? a b c d
    return unit :: (← codeUnits? (.plain false) cs)
  | .escape, _ => none

/-- The letter of an escape sequence, or the quote or backslash that is escaped. -/
def escapedUnit? : Nat → Option Nat
  | 0x22 => some 0x22
  | 0x27 => some 0x27
  | 0x5C => some 0x5C
  | 0x62 => some 0x08
  | 0x66 => some 0x0C
  | 0x6E => some 0x0A
  | 0x72 => some 0x0D
  | 0x73 => some 0x20
  | 0x74 => some 0x09
  | _ => none

/-- Up to so many more octal digits of a number. -/
def octal : Nat → Nat → List Nat → Nat × List Nat
  | more + 1, value, n :: rest =>
    if 0x30 ≤ n ∧ n ≤ 0x37 then octal more (8 * value + (n - 0x30)) rest else (value, n :: rest)
  | _, value, rest => (value, rest)

/-- An escape sequence after its backslash. Octal ones have two digits, or three up to 377. -/
def escape? : List Nat → Option (Nat × List Nat)
  | [] => none
  | n :: rest =>
    match escapedUnit? n with
    | some unit => some (unit, rest)
    | none =>
      if 0x30 ≤ n ∧ n ≤ 0x37 then some (octal (if n ≤ 0x33 then 2 else 1) (n - 0x30) rest)
      else none

private theorem length_octal_le (more value : Nat) (units : List Nat) :
    (octal more value units).2.length ≤ units.length := by
  induction more generalizing value units with
  | zero => exact Nat.le_refl _
  | succ more ih =>
      cases units with
      | nil => exact Nat.le_refl _
      | cons n rest =>
          rw [octal]
          split
          · exact Nat.le_succ_of_le (ih _ rest)
          · exact Nat.le_refl _

private theorem length_lt_of_escape? {units rest : List Nat} {unit : Nat}
    (read : escape? units = some (unit, rest)) : rest.length < units.length := by
  cases units with
  | nil => cases read
  | cons n tail =>
      rw [escape?] at read
      split at read
      · cases read
        exact Nat.lt_succ_self _
      · split at read
        · have shorter := length_octal_le (if n ≤ 0x33 then 2 else 1) (n - 0x30) tail
          rw [Option.some.inj read] at shorter
          exact Nat.lt_succ_of_le shorter
        · cases read

/-- What a literal stands for whose opening quote has been read, and what comes after it. A line
ends before the literal does in no case. -/
def literalUnits? : List Nat → Option (List Nat × List Nat)
  | [] => none
  | n :: units =>
    if n = 0x22 then some ([], units)
    else if n = 0x5C then
      match _ : escape? units with
      | some (unit, rest) => (literalUnits? rest).map (Prod.map (unit :: ·) id)
      | none => none
    else if n = 0x0A ∨ n = 0x0D then none
    else (literalUnits? units).map (Prod.map (n :: ·) id)
termination_by units => units.length
decreasing_by
  · have := length_lt_of_escape? ‹escape? units = some (unit, rest)›
    simp only [List.length_cons]
    omega
  · exact Nat.lt_succ_self _

/-- Reads the literal that source text begins with. -/
def readLiteral? (text : List Char) : Option (List Nat × List Nat) := do
  match ← codeUnits? (.plain false) text with
  | 0x22 :: units => literalUnits? units
  | _ => none

private theorem hex_succ (width n : Nat) :
    hex (width + 2) n = hex (width + 1) (n / 16) ++ [Nat.digitChar (n % 16)] := by
  by_cases small : n < 16
  · have quotient : n / 16 = 0 := Nat.div_eq_of_lt small
    have rest : n % 16 = n := Nat.mod_eq_of_lt small
    rw [hex, hex, quotient, rest, Nat.toDigits_of_lt_base small, Nat.toDigits_zero]
    simp [List.replicate_succ']
  · rw [hex, hex, Nat.toDigits_of_base_le (by decide) (by omega)]
    simp

private theorem hex_one {n : Nat} (small : n < 16) : hex 1 n = [Nat.digitChar n] := by
  rw [hex, Nat.toDigits_of_lt_base small]
  rfl

theorem hex_four {n : Nat} (unit : n < 0x10000) :
    hex 4 n = [Nat.digitChar (n / 16 / 16 / 16), Nat.digitChar (n / 16 / 16 % 16),
      Nat.digitChar (n / 16 % 16), Nat.digitChar (n % 16)] := by
  rw [hex_succ, hex_succ, hex_succ, hex_one (by omega)]
  rfl

/-- The four digits of a code unit. -/
private theorem hex_four_cases {n : Nat} (unit : n < 0x10000) : ∃ a b c d,
    hex 4 n = [a, b, c, d] ∧ Json.hex4? a b c d = some n ∧ a ≠ 'u' := by
  have digit (m : Nat) (small : m < 16) : Json.hexDigit? (Nat.digitChar m) = some m :=
    Json.hexDigit?_digitChar m small
  refine ⟨_, _, _, _, hex_four unit, ?_, ?_⟩
  · rw [Json.hex4?, digit _ (by omega), digit _ (by omega), digit _ (by omega), digit _ (by omega)]
    simp only [Option.bind_eq_bind, Option.bind_some, Option.pure_def]
    congr 1
    omega
  · intro letter
    have none : Json.hexDigit? 'u' = none := by decide
    rw [← letter, digit _ (by omega)] at none
    cases none

/-- What is left of an escaped code unit once Unicode escapes are replaced. -/
def lexeme (n : Nat) : List Nat :=
  if n = 0x22 then [0x5C, 0x22]
  else if n = 0x5C then [0x5C, 0x5C]
  else if n = 0x0A then [0x5C, 0x6E]
  else if n = 0x0D then [0x5C, 0x72]
  else if n = 0x09 then [0x5C, 0x74]
  else [n]

private theorem codeUnits?_plain {odd : Bool} {c : Char} (plain : c ≠ '\\') (cs : List Char) :
    codeUnits? (.plain odd) (c :: cs) =
      (codeUnits? (.plain false) cs).map (units16 c ++ ·) := by
  simp [codeUnits?, plain]

/-- No Unicode escape begins after an odd number of backslashes. -/
private theorem codeUnits?_odd (c : Char) (cs : List Char) :
    codeUnits? (.plain true) (c :: cs) =
      (codeUnits? (.plain false) cs).map (units16 c ++ ·) := by
  simp [codeUnits?]

private theorem codeUnits?_pair {c : Char} (letter : c ≠ 'u') (cs : List Char) :
    codeUnits? (.plain false) ('\\' :: c :: cs) =
      (codeUnits? (.plain false) cs).map ((0x5C :: units16 c) ++ ·) := by
  have first : codeUnits? (.plain false) ('\\' :: c :: cs) =
      (codeUnits? (.plain true) (c :: cs)).map ([0x5C] ++ ·) := by
    rw [codeUnits?, if_neg (by simp [letter])]
    rfl
  rw [first, codeUnits?_odd, Option.map_map]
  rfl

private theorem codeUnits?_unicode {n : Nat} (unit : n < 0x10000) (cs : List Char) :
    codeUnits? (.plain false) ('\\' :: 'u' :: (hex 4 n ++ cs)) =
      (codeUnits? (.plain false) cs).map ([n] ++ ·) := by
  obtain ⟨a, b, c, d, digits, value, notLetter⟩ := hex_four_cases unit
  have begin : codeUnits? (.plain false) ('\\' :: 'u' :: (hex 4 n ++ cs)) =
      codeUnits? .escape (a :: b :: c :: d :: cs) := by
    rw [digits, codeUnits?, if_pos ⟨rfl, rfl, rfl⟩, codeUnits?]
    rfl
  rw [begin, codeUnits?.eq_4 _ _ _ _ _ notLetter, value]
  cases codeUnits? (.plain false) cs <;> rfl

private theorem units16_of_lt {c : Char} (single : c.toNat < 0x10000) : units16 c = [c.toNat] :=
  if_pos single

theorem toNat_ofNat_of_le {n : Nat} (ascii : n ≤ 0x7E) : (Char.ofNat n).toNat = n := by
  have valid : n.isValidChar := .inl (by omega)
  rw [Char.ofNat, dif_pos valid]
  rfl

private theorem codeUnits?_visible {n : Nat} (ascii : n ≤ 0x7E) (plain : n ≠ 0x5C)
    (cs : List Char) :
    codeUnits? (.plain false) (Char.ofNat n :: cs) =
      (codeUnits? (.plain false) cs).map ([n] ++ ·) := by
  have value := toNat_ofNat_of_le ascii
  have notBackslash : Char.ofNat n ≠ '\\' := fun same => plain (value ▸ congrArg Char.toNat same)
  rw [codeUnits?_plain notBackslash, units16_of_lt (by omega), value]

/-- Escaping a code unit and replacing Unicode escapes leaves an escape sequence or the code unit
itself, and does not touch what follows. -/
private theorem codeUnits?_escapeUnit {n : Nat} (unit : n < 0x10000) (cs : List Char) :
    codeUnits? (.plain false) (escapeUnit n ++ cs) =
      (codeUnits? (.plain false) cs).map (lexeme n ++ ·) := by
  rw [escapeUnit, lexeme]
  split_ifs with quote backslash line carriage tab visible
  · exact codeUnits?_pair (by decide) cs
  · exact codeUnits?_pair (by decide) cs
  · exact codeUnits?_pair (by decide) cs
  · exact codeUnits?_pair (by decide) cs
  · exact codeUnits?_pair (by decide) cs
  · exact codeUnits?_visible visible.2 backslash cs
  · exact codeUnits?_unicode unit cs

private theorem literalUnits?_escaped {e n : Nat} (meaning : escapedUnit? e = some n)
    (units : List Nat) :
    literalUnits? ([0x5C, e] ++ units) = (literalUnits? units).map (Prod.map (n :: ·) id) := by
  have read : escape? (e :: units) = some (n, units) := by
    rw [escape?, meaning]
  rw [List.cons_append, List.singleton_append, literalUnits?, if_neg (by decide), if_pos rfl]
  split
  · rename_i unit rest found
    cases read.symm.trans found
    rfl
  · rename_i missing
    cases read.symm.trans missing

private theorem literalUnits?_lexeme (n : Nat) (units : List Nat) :
    literalUnits? (lexeme n ++ units) = (literalUnits? units).map (Prod.map (n :: ·) id) := by
  rw [lexeme]
  split_ifs with quote backslash line carriage tab
  · subst quote
    exact literalUnits?_escaped rfl units
  · subst backslash
    exact literalUnits?_escaped rfl units
  · subst line
    exact literalUnits?_escaped rfl units
  · subst carriage
    exact literalUnits?_escaped rfl units
  · subst tab
    exact literalUnits?_escaped rfl units
  · rw [List.singleton_append, literalUnits?, if_neg quote, if_neg backslash,
      if_neg (not_or.mpr ⟨line, carriage⟩)]

private theorem units16_lt (c : Char) : ∀ n ∈ units16 c, n < 0x10000 := by
  have valid : c.toNat < 0xD800 ∨ 0xDFFF < c.toNat ∧ c.toNat < 0x110000 := c.valid
  intro n member
  by_cases single : c.toNat < 0x10000
  · rw [units16_of_lt single] at member
    rwa [List.mem_singleton.mp member]
  · rw [units16, if_neg single] at member
    rcases List.mem_pair.mp member with same | same
    · omega
    · omega

private theorem codeUnits?_escaped {units : List Nat} (each : ∀ n ∈ units, n < 0x10000)
    (cs : List Char) :
    codeUnits? (.plain false) (units.flatMap escapeUnit ++ cs) =
      (codeUnits? (.plain false) cs).map (units.flatMap lexeme ++ ·) := by
  induction units with
  | nil => simp
  | cons n units ih =>
      obtain ⟨first, rest⟩ := List.forall_mem_cons.mp each
      rw [List.flatMap_cons, List.append_assoc, codeUnits?_escapeUnit first, ih rest,
        Option.map_map]
      simp only [List.flatMap_cons, List.append_assoc, Function.comp_def]

private theorem literalUnits?_lexemes (units after : List Nat) :
    literalUnits? (units.flatMap lexeme ++ 0x22 :: after) = some (units, after) := by
  induction units with
  | nil => rw [List.flatMap_nil, List.nil_append, literalUnits?, if_pos rfl]
  | cons n units ih =>
      rw [List.flatMap_cons, List.append_assoc, literalUnits?_lexeme, ih]
      rfl

/-- The UTF-16 code units of a text. -/
def textUnits (s : String) : List Nat :=
  s.toList.flatMap units16

theorem toList_string (s : String) :
    (string s).toList = '"' :: ((textUnits s).flatMap escapeUnit ++ ['"']) := by
  rw [string, String.toList_ofList, stringChars, textUnits, List.flatMap_assoc]
  rfl

theorem textUnits_lt (s : String) : ∀ n ∈ textUnits s, n < 0x10000 := by
  intro n member
  obtain ⟨c, _, inside⟩ := List.mem_flatMap.mp member
  exact units16_lt c n inside

/-- The code units of a text are those that the text can be put together from again. -/
private theorem pairUnits?_units16 (c : Char) (us : List Json.Unit16) :
    Json.pairUnits? ((units16 c).map .unit ++ us) = (Json.pairUnits? us).map (c :: ·) := by
  have valid : c.toNat < 0xD800 ∨ 0xDFFF < c.toNat ∧ c.toNat < 0x110000 := c.valid
  by_cases single : c.toNat < 0x10000
  · rw [units16_of_lt single]
    exact Json.Unit16.stands_unit single us
  · have high := Nat.mod_lt (c.toNat - 0x10000) (show 0x400 > 0 by decide)
    have whole := Nat.div_add_mod (c.toNat - 0x10000) 0x400
    have value : 0x10000 + (0xD800 + (c.toNat - 0x10000) / 0x400 - 0xD800) * 0x400 +
        (0xDC00 + (c.toNat - 0x10000) % 0x400 - 0xDC00) = c.toNat := by omega
    rw [units16, if_neg single]
    simp only [List.map_cons, List.map_nil, List.cons_append, List.nil_append, Json.pairUnits?]
    rw [if_pos (by omega), value, Char.ofNat_toNat]

private theorem pairUnits?_textUnits (s : String) :
    Json.pairUnits? ((textUnits s).map .unit) = some s.toList := by
  rw [textUnits]
  induction s.toList with
  | nil => rfl
  | cons c cs ih =>
      rw [List.flatMap_cons, List.map_append, pairUnits?_units16, ih]
      rfl

def IsPrintable (c : Char) : Prop :=
  0x20 ≤ c.toNat ∧ c.toNat ≤ 0x7E

instance : DecidablePred IsPrintable := fun c =>
  inferInstanceAs (Decidable (0x20 ≤ c.toNat ∧ c.toNat ≤ 0x7E))

private theorem isPrintable_digitChar : ∀ n < 16, IsPrintable (Nat.digitChar n) := by
  decide

theorem isPrintable_of_mem_hex {n : Nat} (unit : n < 0x10000) : ∀ c ∈ hex 4 n, IsPrintable c := by
  rw [hex_four unit]
  simp only [List.forall_mem_cons]
  refine ⟨?_, ?_, ?_, ?_, List.forall_mem_nil _⟩
  all_goals
    apply isPrintable_digitChar
    omega

private theorem isPrintable_of_mem_pair {a b : Char} (first : IsPrintable a)
    (second : IsPrintable b) :
    ∀ c ∈ [a, b], IsPrintable c :=
  List.forall_mem_cons.mpr ⟨first, List.forall_mem_singleton.mpr second⟩

private theorem isPrintable_of_mem_escapeUnit {n : Nat} (unit : n < 0x10000) :
    ∀ c ∈ escapeUnit n, IsPrintable c := by
  rw [escapeUnit]
  split_ifs with quote backslash line carriage tab visible
  · exact isPrintable_of_mem_pair (by decide) (by decide)
  · exact isPrintable_of_mem_pair (by decide) (by decide)
  · exact isPrintable_of_mem_pair (by decide) (by decide)
  · exact isPrintable_of_mem_pair (by decide) (by decide)
  · exact isPrintable_of_mem_pair (by decide) (by decide)
  · rw [List.forall_mem_singleton, IsPrintable, toNat_ofNat_of_le visible.2]
    exact visible
  · rw [List.forall_mem_cons, List.forall_mem_cons]
    exact ⟨by decide, by decide, isPrintable_of_mem_hex unit⟩

private theorem isPrintable_of_mem_string (s : String) :
    ∀ c ∈ (string s).toList, IsPrintable c := by
  have quote : IsPrintable '"' := by decide
  rw [toList_string, List.forall_mem_cons, List.forall_mem_append, List.forall_mem_singleton]
  refine ⟨quote, fun c member => ?_, quote⟩
  obtain ⟨n, inside, written⟩ := List.mem_flatMap.mp member
  exact isPrintable_of_mem_escapeUnit (textUnits_lt s n inside) c written

/-- A literal is read as the code units of its text, whatever source text comes after it. -/
private theorem readLiteral?_string (s : String) (after : List Char) :
    readLiteral? ((string s).toList ++ after) =
      (codeUnits? (.plain false) after).map (textUnits s, ·) := by
  have quote (cs : List Char) : codeUnits? (.plain false) ('"' :: cs) =
      (codeUnits? (.plain false) cs).map ([0x22] ++ ·) := codeUnits?_plain (by decide) cs
  rw [toList_string, List.cons_append, List.append_assoc, readLiteral?, quote,
    codeUnits?_escaped (textUnits_lt s), List.singleton_append, quote]
  cases codeUnits? (.plain false) after with
  | none => rfl
  | some units => exact literalUnits?_lexemes (textUnits s) units

/-- The literal of a text is printable and stands between quotes. It is read to its end, as the code
units of the text and of no other; and it is read so before any source text. -/
theorem string_denotes_its_text (s : String) :
    (∀ c ∈ (string s).toList, IsPrintable c) ∧
    (∃ inside, string s = "\"" ++ inside ++ "\"") ∧
    readLiteral? (string s).toList = some (textUnits s, []) ∧
    Json.pairUnits? ((textUnits s).map .unit) = some s.toList ∧
    ∀ after, readLiteral? ((string s).toList ++ after) =
      (codeUnits? (.plain false) after).map (textUnits s, ·) := by
  refine ⟨isPrintable_of_mem_string s, ?_, ?_, pairUnits?_textUnits s, readLiteral?_string s⟩
  · refine ⟨String.ofList ((textUnits s).flatMap escapeUnit), String.toList_inj.mp ?_⟩
    simp [toList_string]
  · have whole := readLiteral?_string s []
    rwa [List.append_nil] at whole

/-- A backslash before the letter u, a quote, a letter and a sign past the first 65536
characters. -/
def hardText : String := "\\u0022\"é😀"

theorem hardText_denoted :
    string hardText = "\"\\\\u0022\\\"\\u00e9\\ud83d\\ude00\"" ∧
    ('é' ∉ (string hardText).toList ∧ '"' ∈ (string hardText).toList ∧ IsPrintable '"') ∧
    readLiteral? (string hardText).toList =
      some ([0x5C, 0x75, 0x30, 0x30, 0x32, 0x32, 0x22, 0xE9, 0xD83D, 0xDE00], []) := by
  obtain ⟨printable, ⟨inside, quoted⟩, read, _, _⟩ := string_denotes_its_text hardText
  have units : textUnits hardText =
      [0x5C, 0x75, 0x30, 0x30, 0x32, 0x32, 0x22, 0xE9, 0xD83D, 0xDE00] := by decide
  have opening : '"' ∈ (string hardText).toList := by decide
  have absent : 'é' ∉ (string hardText).toList :=
    fun member => absurd (printable 'é' member) (by decide)
  refine ⟨by decide, ⟨absent, opening, printable '"' opening⟩, ?_⟩
  rw [read, units]

end ProtoRules.Java
