import ProtoRules.Proofs.JavaStrings
import ProtoRules.Proofs.NameCharacters
import ProtoRules.Proofs.NumberText

/-!
Brackets of Java source text. A line is read from left to right with the closing brackets that are
awaited; what stands in a string literal does not count. A text has its brackets in order if its
lines do one after the other. Literals of all kinds leave the brackets around them as they are,
whatever the value is.
-/

namespace ProtoRules.Java

/-- Brackets, quotes, backslashes and line breaks. -/
def marks : List Char :=
  ['(', ')', '[', ']', '{', '}', '"', '\'', '\\', '\n', '\r']

inductive Mode
  | code
  | text
  /-- Behind a backslash in a literal. -/
  | escape
deriving DecidableEq, Repr

def closer? : Char → Option Char
  | '(' => some ')'
  | '[' => some ']'
  | '{' => some '}'
  | _ => none

/-- What a bracket makes of the awaited ones, innermost first: one that does not open has to be the
first of them. -/
def turn? (awaited : List Char) (c : Char) : Option (List Char) :=
  match closer? c, awaited with
  | some close, _ => some (close :: awaited)
  | none, d :: rest => if c = d then some rest else none
  | none, [] => none

/-- What a character makes of the mode and the awaited brackets. Outside of literals there are no
other marks than brackets. -/
def read : Mode × List Char → Char → Option (Mode × List Char)
  | (.code, awaited), c =>
    if c ∉ marks then some (.code, awaited)
    else if c = '"' then some (.text, awaited)
    else (turn? awaited c).map fun awaited => (.code, awaited)
  | (.text, awaited), c =>
    if c = '"' then some (.code, awaited)
    else if c = '\\' then some (.escape, awaited)
    else some (.text, awaited)
  | (.escape, awaited), _ => some (.text, awaited)

def isBreak (c : Char) : Bool :=
  c == '\n' || c == '\r'

/-- Nothing is read past the end of a line. -/
def advance (place : Mode × List Char) (c : Char) : Option (Mode × List Char) :=
  if isBreak c then none else read place c

/-- The brackets that are awaited behind a line, which does not end in a literal. -/
def awaitedAfter? (awaited : List Char) (line : String) : Option (List Char) :=
  match line.toList.foldlM advance (.code, awaited) with
  | some (.code, awaited) => some awaited
  | _ => none

/-- Outside literals every bracket is closed by one of its own kind, in the order of their nesting,
and every literal ends on the line that it begins on. -/
def WellBracketed (text : String) : Prop :=
  (Text.splitOn '\n' text).foldlM awaitedAfter? [] = some []

instance (text : String) : Decidable (WellBracketed text) :=
  inferInstanceAs (Decidable (_ = _))

example : WellBracketed ("f(\")\", new int[]" ++ braced "1" ++ ");\ng();\n") := by decide

example : ¬ WellBracketed "f(\")\"\n];" := by decide

/-- A part of a line, outside literals at both ends, that turns the awaited brackets into others. -/
def Turns (before after : List Char) (part : String) : Prop :=
  part.toList.foldlM advance (.code, before) = some (.code, after)

instance (before after : List Char) (part : String) : Decidable (Turns before after part) :=
  inferInstanceAs (Decidable (_ = _))

/-- A part that closes what it opens. -/
abbrev Balanced (part : String) : Prop :=
  Turns [] [] part

variable {before middle after outer : List Char} {s t : String}

theorem awaitedAfter?_eq_some_iff :
    awaitedAfter? before s = some after ↔ Turns before after s := by
  unfold awaitedAfter? Turns
  split
  · rename_i awaited read
    rw [read]
    simp
  · rename_i other
    refine iff_of_false (by simp) fun read => other _ read

private theorem turn?_frame {c : Char} (turned : turn? before c = some after) :
    turn? (before ++ outer) c = some (after ++ outer) := by
  unfold turn? at turned ⊢
  cases opened : closer? c with
  | some close =>
      rw [opened] at turned
      cases turned
      rfl
  | none =>
      rw [opened] at turned
      cases before with
      | nil => cases turned
      | cons d rest =>
          have turned : (if c = d then some rest else none) = some after := turned
          by_cases same : c = d
          · rw [if_pos same] at turned
            cases turned
            exact if_pos same
          · rw [if_neg same] at turned
            cases turned

private theorem read_frame {m m' : Mode} {c : Char}
    (passed : read (m, before) c = some (m', after)) :
    read (m, before ++ outer) c = some (m', after ++ outer) := by
  cases m with
  | code =>
      simp only [read] at passed ⊢
      split_ifs at passed ⊢ with plain quote
      · cases passed
        rfl
      · obtain ⟨awaited, turned, same⟩ := Option.map_eq_some_iff.mp passed
        cases same
        rw [turn?_frame turned]
        rfl
      · cases passed
        rfl
  | text =>
      simp only [read] at passed ⊢
      split_ifs at passed ⊢ <;> cases passed <;> rfl
  | escape =>
      cases passed
      rfl

theorem advance_eq_some_iff {place next : Mode × List Char} {c : Char} :
    advance place c = some next ↔ isBreak c = false ∧ read place c = some next := by
  cases broken : isBreak c <;> simp [advance, broken]

private theorem foldlM_advance_frame {m m' : Mode} {cs : List Char}
    (passed : cs.foldlM advance (m, before) = some (m', after)) :
    cs.foldlM advance (m, before ++ outer) = some (m', after ++ outer) := by
  induction cs generalizing m before with
  | nil =>
      cases passed
      rfl
  | cons c cs ih =>
      rw [List.foldlM_cons] at passed ⊢
      obtain ⟨⟨next, awaited⟩, first, rest⟩ := Option.bind_eq_some_iff.mp passed
      obtain ⟨unbroken, first⟩ := advance_eq_some_iff.mp first
      rw [advance_eq_some_iff.mpr ⟨unbroken, read_frame first⟩]
      exact ih rest

theorem unbroken_of_foldlM_advance {m m' : Mode} {cs : List Char}
    (passed : cs.foldlM advance (m, before) = some (m', after)) : ∀ c ∈ cs, isBreak c = false := by
  induction cs generalizing m before with
  | nil => exact fun c member => absurd member List.not_mem_nil
  | cons c cs ih =>
      rw [List.foldlM_cons] at passed
      obtain ⟨⟨next, awaited⟩, first, rest⟩ := Option.bind_eq_some_iff.mp passed
      exact List.forall_mem_cons.mpr ⟨(advance_eq_some_iff.mp first).1, ih rest⟩

private theorem foldlM_advance_of_fixed {place : Mode × List Char} {cs : List Char}
    (fixed : ∀ c ∈ cs, advance place c = some place) : cs.foldlM advance place = some place := by
  induction cs with
  | nil => rfl
  | cons c cs ih =>
      obtain ⟨first, rest⟩ := List.forall_mem_cons.mp fixed
      rw [List.foldlM_cons, first]
      exact ih rest

namespace Turns

/-- Brackets further out are of no account. -/
theorem frame (turns : Turns before after s) (outer : List Char) :
    Turns (before ++ outer) (after ++ outer) s :=
  foldlM_advance_frame turns

theorem append (first : Turns before middle s) (second : Turns middle after t) :
    Turns before after (s ++ t) := by
  rw [Turns, String.toList_append, List.foldlM_append, first]
  exact second

theorem closed (balanced : Balanced s) (awaited : List Char) : Turns awaited awaited s :=
  balanced.frame awaited

theorem prepend (turns : Turns before after t) (balanced : Balanced s) :
    Turns before after (s ++ t) :=
  (balanced.closed before).append turns

theorem extend (turns : Turns before after s) (balanced : Balanced t) :
    Turns before after (s ++ t) :=
  turns.append (balanced.closed after)

theorem opens (turns : Turns before after s) :
    Turns before ('}' :: after) (ProtoRules.opens s) := by
  have brace : Turns [] ['}'] " \x7b" := by decide
  exact turns.append (brace.frame after)

theorem closes (turns : Turns before after s) :
    Turns ('}' :: before) after (ProtoRules.closes s) := by
  have brace : Turns ['}'] [] "\x7d" := by decide
  exact (brace.frame before).append turns

end Turns

theorem balanced_braced (inside : Balanced s) : Balanced (braced s) := by
  have opening : Turns [] ['}'] "\x7b" := by decide
  have closing : Turns ['}'] [] "\x7d" := by decide
  exact (opening.extend inside).append closing

/-- A text without brackets, quotes, backslashes and line breaks. -/
def Plain (s : String) : Prop :=
  ∀ c ∈ s.toList, c ∉ marks

instance (s : String) : Decidable (Plain s) :=
  List.decidableBAll _ _

private theorem not_mem_marks_of_isDigit {c : Char} (digit : c.isDigit = true) : c ∉ marks := by
  have none : marks.all (!·.isDigit) = true := by decide
  intro member
  have other := List.all_eq_true.mp none c member
  rw [digit] at other
  cases other

theorem Plain.append (first : Plain s) (second : Plain t) : Plain (s ++ t) := by
  rw [Plain, String.toList_append]
  exact List.forall_mem_append.mpr ⟨first, second⟩

private theorem isBreak_of_not_mem_marks {c : Char} (plain : c ∉ marks) : isBreak c = false := by
  have breaks : ∀ c, isBreak c = true → c ∈ marks := by
    intro c broken
    rcases Bool.or_eq_true_iff.mp broken with line | carriage
    · rw [eq_of_beq line]
      decide
    · rw [eq_of_beq carriage]
      decide
  exact Bool.eq_false_iff.mpr fun broken => plain (breaks c broken)

theorem Plain.balanced (plain : Plain s) : Balanced s := by
  refine foldlM_advance_of_fixed fun c member => ?_
  have outside := plain c member
  exact advance_eq_some_iff.mpr ⟨isBreak_of_not_mem_marks outside, if_pos outside⟩

/-- A literal of plain text. -/
private theorem balanced_quoted (plain : Plain s) : Balanced ("\"" ++ s ++ "\"") := by
  have inside : s.toList.foldlM advance (.text, []) = some (.text, []) := by
    refine foldlM_advance_of_fixed fun c member => ?_
    have outside := plain c member
    have other {mark : Char} (member : mark ∈ marks) : c ≠ mark := by
      rintro rfl
      exact outside member
    refine advance_eq_some_iff.mpr ⟨isBreak_of_not_mem_marks outside, ?_⟩
    rw [read, if_neg (other (by decide)), if_neg (other (by decide))]
  have opened : "\"".toList.foldlM advance (.code, []) = some (.text, []) := by decide
  unfold Balanced Turns
  rw [String.toList_append, String.toList_append, List.foldlM_append, List.foldlM_append, opened]
  show (s.toList.foldlM advance (.text, []) >>= fun place => "\"".toList.foldlM advance place) = _
  rw [inside]
  decide

theorem plain_toString (n : Int) : Plain (toString n) := by
  intro c member
  rcases mem_toString member with rfl | digit
  · decide
  · exact not_mem_marks_of_isDigit digit

theorem balanced_intercalate {sep : String} {items : List String} (between : Balanced sep)
    (each : ∀ item ∈ items, Balanced item) : Balanced (sep.intercalate items) := by
  induction items with
  | nil => rfl
  | cons item items ih =>
      obtain ⟨first, rest⟩ := List.forall_mem_cons.mp each
      cases items with
      | nil =>
          rw [String.intercalate_singleton]
          exact first
      | cons next items =>
          rw [String.intercalate_cons_cons]
          exact (first.append between).append (ih rest)

private theorem advance_visible {c : Char} (printable : IsPrintable c) (quote : c ≠ '"')
    (slash : c ≠ '\\') (awaited : List Char) :
    advance (.text, awaited) c = some (.text, awaited) := by
  have unbroken : isBreak c = false := by
    refine Bool.eq_false_iff.mpr fun broken => ?_
    rcases Bool.or_eq_true_iff.mp broken with line | carriage
    · rw [eq_of_beq line] at printable
      exact absurd printable (by decide)
    · rw [eq_of_beq carriage] at printable
      exact absurd printable (by decide)
  refine advance_eq_some_iff.mpr ⟨unbroken, ?_⟩
  rw [read, if_neg quote, if_neg slash]

private theorem advance_escapeUnit {n : Nat} (unit : n < 0x10000) (awaited : List Char) :
    (escapeUnit n).foldlM advance (.text, awaited) = some (.text, awaited) := by
  rw [escapeUnit]
  split_ifs with quote backslash line carriage tab visible
  · rfl
  · rfl
  · rfl
  · rfl
  · rfl
  · have printable : IsPrintable (Char.ofNat n) := by
      rw [IsPrintable, toNat_ofNat_of_le visible.2]
      exact visible
    have other {c : Char} (apart : n ≠ c.toNat) : Char.ofNat n ≠ c := by
      intro same
      rw [← toNat_ofNat_of_le visible.2, same] at apart
      exact apart rfl
    refine foldlM_advance_of_fixed (List.forall_mem_singleton.mpr ?_)
    exact advance_visible printable (other quote) (other backslash) awaited
  · show (hex 4 n).foldlM advance (.text, awaited) = _
    have digit : ∀ m < 16, Nat.digitChar m ≠ '"' ∧ Nat.digitChar m ≠ '\\' := by decide
    have each : ∀ c ∈ hex 4 n, c ≠ '"' ∧ c ≠ '\\' := by
      rw [hex_four unit]
      simp only [List.forall_mem_cons]
      exact ⟨digit _ (by omega), digit _ (by omega), digit _ (by omega), digit _ (by omega),
        List.forall_mem_nil _⟩
    refine foldlM_advance_of_fixed fun c member => ?_
    obtain ⟨quote, slash⟩ := each c member
    exact advance_visible (isPrintable_of_mem_hex unit c member) quote slash awaited

private theorem advance_units {units : List Nat} (each : ∀ n ∈ units, n < 0x10000)
    (awaited : List Char) :
    (units.flatMap escapeUnit).foldlM advance (.text, awaited) = some (.text, awaited) := by
  induction units with
  | nil => rfl
  | cons n units ih =>
      obtain ⟨first, rest⟩ := List.forall_mem_cons.mp each
      rw [List.flatMap_cons, List.foldlM_append, advance_escapeUnit first]
      exact ih rest

/-- Whatever a text is, its literal is closed again. -/
theorem balanced_string (s : String) : Balanced (string s) := by
  unfold Balanced Turns
  rw [toList_string]
  show ((textUnits s).flatMap escapeUnit ++ ['"']).foldlM advance (.text, []) = _
  rw [List.foldlM_append, advance_units (textUnits_lt s)]
  rfl

theorem plain_word {f : IntFormat} (w : Word f) : Plain w.text :=
  plain_toString w.val

private theorem plain_positional (d : Decimal) : Plain d.positional := by
  have digit (m : Nat) : ∀ c ∈ Nat.toDigits 10 m, c ∉ marks := fun c member =>
    not_mem_marks_of_isDigit (Nat.isDigit_of_mem_toDigits (by decide) (by decide) member)
  have zero (count : Nat) : ∀ c ∈ List.replicate count '0', c ∉ marks := by
    intro c member
    rw [List.eq_of_mem_replicate member]
    decide
  unfold Plain Decimal.positional
  dsimp only
  generalize Decimal.strip _ d = d
  split
  · rw [String.toList_ofList]
    exact List.forall_mem_append.mpr ⟨digit _, zero _⟩
  · have whole (count : Nat) : ∀ c ∈ List.replicate count '0' ++ Nat.toDigits 10 d.digits,
        c ∉ marks := List.forall_mem_append.mpr ⟨zero count, digit _⟩
    rw [String.toList_ofList]
    refine List.forall_mem_append.mpr ⟨fun c member => ?_, ?_⟩
    · exact whole _ c (List.mem_of_mem_take member)
    · refine List.forall_mem_cons.mpr ⟨by decide, fun c member => ?_⟩
      exact whole _ c (List.mem_of_mem_drop member)

private theorem plain_binary {f : FloatFormat} (x : Binary f) : Plain x.text := by
  cases x with
  | nan => exact (by decide : Plain "NaN")
  | infinite negative =>
      cases negative with
      | false => exact (by decide : Plain "inf")
      | true => exact (by decide : Plain "-inf")
  | finite negative m e =>
      have magnitude : Plain (if m = 0 then "0" else (Decimal.shortest f m e).positional) := by
        split
        · decide
        · exact plain_positional _
      cases negative with
      | false => exact magnitude
      | true => exact Plain.append (by decide : Plain "-") magnitude

private theorem plain_floatText {f : FloatFormat} {type letter : String} (named : Plain type)
    (lettered : Plain letter) (x : Binary f) :
    Plain (NumberLiteral.floatText type letter x) := by
  cases x with
  | nan => exact named.append (by decide)
  | infinite negative =>
      cases negative with
      | false => exact named.append (by decide)
      | true => exact named.append (by decide)
  | finite negative m e => exact (plain_binary _).append lettered

theorem balanced_number (f : NumberFormat) (x : Number f) : Balanced (number f x) := by
  have long (n : Int) : Balanced (NumberLiteral.long n).text :=
    ((plain_toString n).append (by decide)).balanced
  have castInt (n : Int) : Balanced (NumberLiteral.castInt n).text := by
    have cast : Balanced "(int) " := by decide
    have letter : Balanced "L" := by decide
    show Balanced ("(int) " ++ toString n ++ "L")
    exact (cast.append (plain_toString n).balanced).append letter
  have parseLong (n : Int) : Balanced (NumberLiteral.parseLong n).text := by
    -- The quotes belong to the digits between them, the parentheses to the call.
    have opening : Turns [] [')'] "Long.parseUnsignedLong(" := by decide
    have closing : Turns [')'] [] ")" := by decide
    have front : "Long.parseUnsignedLong(\"" = "Long.parseUnsignedLong(" ++ "\"" := by decide
    have back : "\")" = "\"" ++ ")" := by decide
    have parts : (NumberLiteral.parseLong n).text =
        "Long.parseUnsignedLong(" ++ ("\"" ++ toString n ++ "\"") ++ ")" := by
      show "Long.parseUnsignedLong(\"" ++ toString n ++ "\")" = _
      rw [front, back]
      simp only [String.append_assoc]
    rw [parts]
    exact (opening.extend (balanced_quoted (plain_toString n))).append closing
  unfold number NumberLiteral.ofNumber
  split
  · split
    · exact (plain_floatText (by decide) (by decide) _).balanced
    · exact (plain_floatText (by decide) (by decide) _).balanced
  · exact long _
  · exact (plain_toString _).balanced
  · split
    · exact long _
    · exact parseLong _
  · split
    · exact (plain_toString _).balanced
    · exact castInt _

theorem balanced_bytes (bs : Bytes) : Balanced (bytes bs) := by
  have digits : ∀ n < 256, Plain (String.ofList (hex 2 n)) := by decide +kernel
  have byte (b : UInt8) : Balanced (byte b) := by
    have cast : Balanced "(byte) 0x" := by decide
    rw [Java.byte]
    exact cast.append (digits b.toNat b.toNat_lt).balanced
  have items : Balanced (", ".intercalate (bs.map Java.byte)) :=
    balanced_intercalate (by decide) (List.forall_mem_map.mpr fun b _ => byte b)
  have front : Balanced "new byte[]" := by decide
  rw [bytes]
  exact front.append (balanced_braced items)

private theorem balanced_timeBuilder {type : String} (named : Plain type) (seconds : Word .int64)
    (nanos : Word .int32) : Balanced (timeBuilder type seconds nanos) := by
  have opening : Turns [] [')'] ".newBuilder().setSeconds(" := by decide
  have between : Turns [')'] [')'] "L).setNanos(" := by decide
  have closing : Turns [')'] [] ").build()" := by decide
  have first := (opening.prepend named.balanced).extend (plain_word seconds).balanced
  exact ((first.append between).extend (plain_word nanos).balanced).append closing

theorem balanced_duration (d : DurationLiteral) : Balanced (duration d) :=
  balanced_timeBuilder (by decide) d.seconds d.nanos

theorem balanced_timestamp (t : TimestampLiteral) : Balanced (timestamp t) :=
  balanced_timeBuilder (by decide) t.seconds t.nanos

/-- The message of an error is a literal; its method and the class of that are written as they are.
-/
theorem balanced_errorCall {base : Option ErrorBase} {spec : ErrorSpec}
    (owner : ∀ b ∈ base, Plain b.owner) (method : Plain spec.method) :
    Balanced (errorCall base spec) := by
  have arguments : ∀ item ∈ (spec.code.map Word.text).toList ++ (spec.message.map string).toList,
      Balanced item := by
    refine List.forall_mem_append.mpr ⟨fun item member => ?_, fun item member => ?_⟩
    · obtain ⟨code, _, rfl⟩ := Option.map_eq_some_iff.mp (Option.mem_toList.mp member)
      exact (plain_word code).balanced
    · obtain ⟨message, _, rfl⟩ := Option.map_eq_some_iff.mp (Option.mem_toList.mp member)
      exact balanced_string message
  have opening : Turns [] [')'] "(" := by decide
  have closing : Turns [')'] [] ")" := by decide
  have listed := balanced_intercalate (by decide : Balanced ", ") arguments
  cases base with
  | none => exact ((opening.prepend method.balanced).extend listed).append closing
  | some b =>
      have named := ((owner b rfl).append (by decide : Plain ".")).append method
      exact ((opening.prepend named.balanced).extend listed).append closing

end ProtoRules.Java
