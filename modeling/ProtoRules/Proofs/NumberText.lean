import Mathlib.Data.List.Basic
import ProtoRules.Emit.JavaLiteral
import ProtoRules.Emit.RustLiteral
import ProtoRules.Number.Reader

/-!
Integers in source text, and the values that compilers take them for. A Java expression has one of
two boxed types, both of them signed; a Rust literal has the type that it ends in.
-/

namespace ProtoRules

/-- Decimal digits, of which the first is no zero; it would make them octal. -/
def decimal? (cs : List Char) : Option Nat :=
  if cs.head? = some '0' ∧ cs ≠ ['0'] then none else digits? cs

def integer? : List Char → Option Int
  | '-' :: cs => (decimal? cs).map fun n : Nat => -(n : Int)
  | cs => (decimal? cs).map fun n : Nat => (n : Int)

private theorem digits?_toDigits (n : Nat) : digits? (Nat.toDigits 10 n) = some n := by
  have digits : ∀ c ∈ Nat.toDigits 10 n, c.isDigit = true := fun c member =>
    Nat.isDigit_of_mem_toDigits (by decide) (by decide) member
  have nonempty : (Nat.toDigits 10 n).isEmpty = false := by
    simp [Nat.toDigits_ne_nil]
  have value : (Nat.toDigits 10 n).foldl (fun n c => n * 10 + (c.toNat - '0'.toNat)) 0 = n := by
    have read := Nat.ofDigitChars_toDigits (b := 10) (n := n) (by decide) (by decide)
    rw [Nat.ofDigitChars_eq_foldl] at read
    simpa only [Nat.mul_comm] using read
  rw [digits?, nonempty, List.all_eq_true.mpr digits, value]
  rfl

theorem head?_toDigits {n : Nat} (positive : 0 < n) : (Nat.toDigits 10 n).head? ≠ some '0' := by
  induction n using Nat.strongRecOn with
  | ind n ih =>
      by_cases single : n < 10
      · rw [Nat.toDigits_of_lt_base single, List.head?_cons, ne_eq, Option.some_inj,
          Nat.digitChar_eq_zero]
        omega
      · have leading := ih (n / 10) (by omega) (by omega)
        rw [Nat.toDigits_of_base_le (by decide) (by omega), List.head?_append]
        cases digits : Nat.toDigits 10 (n / 10) with
        | nil => exact absurd digits Nat.toDigits_ne_nil
        | cons c cs =>
            rw [digits] at leading
            exact leading

private theorem decimal?_toDigits (n : Nat) : decimal? (Nat.toDigits 10 n) = some n := by
  cases n with
  | zero => rfl
  | succ n =>
      rw [decimal?, if_neg fun zero => head?_toDigits n.succ_pos zero.1]
      exact digits?_toDigits (n + 1)

theorem toList_toString_natCast (n : Nat) : (toString (n : Int)).toList = Nat.toDigits 10 n :=
  Nat.toList_repr

theorem toList_toString_negSucc (n : Nat) :
    (toString (Int.negSucc n)).toList = '-' :: Nat.toDigits 10 (n + 1) := by
  have text : toString (Int.negSucc n) = "-" ++ (n + 1).repr := rfl
  rw [text, String.toList_append, Nat.toList_repr]
  rfl

private theorem integer?_toString (n : Int) : integer? (toString n).toList = some n := by
  cases n with
  | ofNat n =>
      have text : (toString (Int.ofNat n)).toList = Nat.toDigits 10 n := toList_toString_natCast n
      have unsigned : ∀ cs, Nat.toDigits 10 n ≠ '-' :: cs := by
        intro cs negative
        have member : '-' ∈ Nat.toDigits 10 n := negative ▸ List.mem_cons_self
        exact absurd (Nat.isDigit_of_mem_toDigits (by decide) (by decide) member) (by decide)
      rw [text, integer?, decimal?_toDigits]
      · rfl
      · exact unsigned
  | negSucc n =>
      rw [toList_toString_negSucc, integer?, decimal?_toDigits]
      rfl

theorem mem_toString {n : Int} {c : Char} (member : c ∈ (toString n).toList) :
    c = '-' ∨ c.isDigit = true := by
  have digit {m : Nat} {c : Char} (member : c ∈ Nat.toDigits 10 m) : c.isDigit = true :=
    Nat.isDigit_of_mem_toDigits (by decide) (by decide) member
  cases n with
  | ofNat n => exact .inr (digit (toList_toString_natCast n ▸ member))
  | negSucc n =>
      rw [toList_toString_negSucc] at member
      rcases List.mem_cons.mp member with rfl | member
      · exact .inl rfl
      · exact .inr (digit member)

namespace IntFormat

theorem count_succ (bits : Nat) : count (bits + 1) = 2 * count bits := by
  rw [count, count, Nat.shiftLeft_succ]

end IntFormat

namespace Word

private theorem lo_le_bmod (bits : Nat) (n : Int) :
    (IntFormat.signed (bits + 1)).lo ≤ n.bmod (IntFormat.count (bits + 1)) := by
  have bound := Int.le_bmod (x := n) (IntFormat.count_pos (bits + 1))
  have double := IntFormat.count_succ bits
  simp only [IntFormat.lo, Nat.add_sub_cancel]
  omega

private theorem bmod_le_hi (bits : Nat) (n : Int) :
    n.bmod (IntFormat.count (bits + 1)) ≤ (IntFormat.signed (bits + 1)).hi := by
  have bound := Int.bmod_lt (x := n) (IntFormat.count_pos (bits + 1))
  have double := IntFormat.count_succ bits
  simp only [IntFormat.hi, Nat.add_sub_cancel]
  omega

/-- The number of the signed type that has the bits of an integer. -/
def signedBits (bits : Nat) (n : Int) : Word (.signed (bits + 1)) where
  val := n.bmod (IntFormat.count (bits + 1))
  lo_le := lo_le_bmod bits n
  le_hi := bmod_le_hi bits n

/-- The bits of a number beyond the greatest signed one are those of a negative number. -/
theorem signedBits_val {bits : Nat} {n : Int} (least : (IntFormat.signed (bits + 1)).lo ≤ n)
    (greatest : n ≤ (IntFormat.unsigned (bits + 1)).hi) : (signedBits bits n).val =
      if n ≤ (IntFormat.signed (bits + 1)).hi then n else n - IntFormat.count (bits + 1) := by
  have double := IntFormat.count_succ bits
  simp only [IntFormat.lo, IntFormat.hi, Nat.add_sub_cancel] at least greatest ⊢
  have val : (signedBits bits n).val = n.bmod (IntFormat.count (bits + 1)) := rfl
  rw [val]
  split
  · rw [Int.bmod_eq_of_le] <;> omega
  · rw [← Int.sub_bmod_right, Int.bmod_eq_of_le] <;> omega

end Word

namespace Java

inductive Boxed
  | integer (w : Word .int32)
  | long (w : Word .int64)
deriving DecidableEq, Repr

namespace Boxed

def type : Boxed → String
  | integer _ => "Integer"
  | long _ => "Long"

/-- A literal is of type long if it ends in the letter, else of type int. -/
def literal? (cs : List Char) : Option Boxed :=
  if cs.getLast? = some 'L' then
    ((integer? cs.dropLast).bind (Word.ofInt? .int64)).map long
  else ((integer? cs).bind (Word.ofInt? .int32)).map integer

def castInt : Boxed → Boxed
  | integer w => integer w
  | long w => integer (Word.signedBits 31 w.val)

/-- The argument of a call that parses an unsigned number, from behind its opening quote. -/
def unsigned? (cs : List Char) : Option Boxed := do
  let n ← digits? (← "\")".toList.isSuffixOf? cs)
  let w ← Word.ofInt? .uint64 n
  return long (Word.signedBits 63 w.val)

/-- The value of an expression: a literal, a literal that is cast, or an unsigned number that is
parsed. -/
def read? (expression : String) : Option Boxed :=
  let cs := expression.toList
  match "(int) ".toList.isPrefixOf? cs, "Long.parseUnsignedLong(\"".toList.isPrefixOf? cs with
  | some literal, _ => (literal? literal).map castInt
  | none, some argument => unsigned? argument
  | none, none => literal? cs

private theorem not_mem_toString {n : Int} {c : Char} (sign : c ≠ '-') (digit : c.isDigit = false) :
    c ∉ (toString n).toList := by
  intro member
  rcases mem_toString member with rfl | isDigit
  · exact sign rfl
  · rw [digit] at isDigit
    cases isDigit

private theorem literal?_toString (w : Word .int32) :
    literal? (toString w.val).toList = some (integer w) := by
  have unmarked : (toString w.val).toList.getLast? ≠ some 'L' := fun last =>
    not_mem_toString (by decide) (by decide) (List.mem_of_getLast? last)
  rw [literal?, if_neg unmarked, integer?_toString]
  simp

private theorem literal?_toString_long (w : Word .int64) :
    literal? ((toString w.val).toList ++ ['L']) = some (long w) := by
  rw [literal?, if_pos List.getLast?_concat, List.dropLast_concat, integer?_toString]
  simp

private theorem read?_eq_literal? {s : String} (plain : '(' ∉ s.toList) :
    read? s = literal? s.toList := by
  have other {front : List Char} (bracket : '(' ∈ front) : front.isPrefixOf? s.toList = none := by
    cases found : front.isPrefixOf? s.toList with
    | none => rfl
    | some rest =>
        rw [List.isPrefixOf?_eq_some_iff_append_eq] at found
        exact absurd (found ▸ List.mem_append_left rest bracket) plain
  rw [read?, other (by decide), other (by decide)]

theorem read?_int (w : Word .int32) : read? (NumberLiteral.int w.val).text = some (integer w) := by
  have plain : '(' ∉ (toString w.val).toList := not_mem_toString (by decide) (by decide)
  exact (read?_eq_literal? plain).trans (literal?_toString w)

theorem read?_long (w : Word .int64) : read? (NumberLiteral.long w.val).text = some (long w) := by
  have text : (NumberLiteral.long w.val).text.toList = (toString w.val).toList ++ ['L'] :=
    String.toList_append
  have plain : '(' ∉ (NumberLiteral.long w.val).text.toList := by
    rw [text, List.mem_append, not_or]
    exact ⟨not_mem_toString (by decide) (by decide), by decide⟩
  rw [read?_eq_literal? plain, text]
  exact literal?_toString_long w

theorem read?_castInt (w : Word .int64) :
    read? (NumberLiteral.castInt w.val).text = some (integer (Word.signedBits 31 w.val)) := by
  have text : (NumberLiteral.castInt w.val).text.toList =
      "(int) ".toList ++ ((toString w.val).toList ++ ['L']) := by
    show ("(int) " ++ toString w.val ++ "L").toList = _
    rw [String.toList_append, String.toList_append, List.append_assoc]
    rfl
  rw [read?, text, List.isPrefixOf?_eq_some_iff_append_eq.mpr rfl]
  exact congrArg (Option.map castInt) (literal?_toString_long w)

private theorem unsigned?_toDigits {w : Word .uint64} {n : Nat} (value : w.val = n) :
    unsigned? (Nat.toDigits 10 n ++ "\")".toList) = some (long (Word.signedBits 63 w.val)) := by
  have read : Word.ofInt? .uint64 n = some w := by
    rw [← value]
    exact Word.ofInt?_val w
  rw [unsigned?, List.isSuffixOf?_eq_some_iff_append_eq.mpr rfl]
  simp only [Option.bind_eq_bind, Option.bind_some, digits?_toDigits, read]
  rfl

theorem read?_parseLong (w : Word .uint64) :
    read? (NumberLiteral.parseLong w.val).text = some (long (Word.signedBits 63 w.val)) := by
  obtain ⟨n, value⟩ := Int.eq_ofNat_of_zero_le w.lo_le
  have text : (NumberLiteral.parseLong w.val).text.toList =
      "Long.parseUnsignedLong(\"".toList ++ (Nat.toDigits 10 n ++ "\")".toList) := by
    show ("Long.parseUnsignedLong(\"" ++ toString w.val ++ "\")").toList = _
    rw [value, String.toList_append, String.toList_append, toList_toString_natCast,
      List.append_assoc]
  have cast : "(int) ".toList.isPrefixOf?
      ("Long.parseUnsignedLong(\"".toList ++ (Nat.toDigits 10 n ++ "\")".toList)) = none := rfl
  rw [read?, text, cast, List.isPrefixOf?_eq_some_iff_append_eq.mpr rfl]
  exact unsigned?_toDigits value

end Boxed

end Java

namespace Rust

/-- The number before the type that a literal ends in. -/
def magnitude? (type text : String) : Option Nat :=
  (type.toList.isSuffixOf? text.toList).bind decimal?

def integer? (type : String) : Tokens → Option Int
  | [.literal text] => (magnitude? type text).map fun n : Nat => (n : Int)
  | [.op "-", .literal text] => (magnitude? type text).map fun n : Nat => -(n : Int)
  | _ => none

private theorem magnitude?_toString (type : String) (n : Nat) :
    magnitude? type (toString n ++ type) = some n := by
  have text : (toString n).toList = Nat.toDigits 10 n := Nat.toList_repr
  rw [magnitude?, String.toList_append, text, List.isSuffixOf?_eq_some_iff_append_eq.mpr rfl]
  exact decimal?_toDigits n

theorem integer?_integer (n : Int) (type : String) : integer? type (integer n type) = some n := by
  have magnitude := magnitude?_toString type n.natAbs
  rw [integer, signed]
  split
  · rw [integer?, magnitude, Option.map_some, Option.some_inj]
    simp only [decide_eq_true_eq] at *
    omega
  · rw [integer?, magnitude, Option.map_some, Option.some_inj]
    simp only [decide_eq_true_eq] at *
    omega

end Rust

end ProtoRules
