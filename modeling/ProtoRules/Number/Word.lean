/-!
Integers of a fixed width. A word carries the proof that it is in range, so that what is read from
outside is checked once and every stored value can be written and read again.
-/

namespace ProtoRules

inductive IntFormat
  | signed (bits : Nat)
  | unsigned (bits : Nat)
deriving DecidableEq, Repr

namespace IntFormat

def count (bits : Nat) : Nat :=
  1 <<< bits

theorem count_pos (bits : Nat) : 0 < count bits := by
  rw [count, Nat.one_shiftLeft]
  exact Nat.two_pow_pos bits

def lo : IntFormat → Int
  | signed bits => -count (bits - 1)
  | unsigned _ => 0

def hi : IntFormat → Int
  | signed bits => count (bits - 1) - 1
  | unsigned bits => count bits - 1

def bits : IntFormat → Nat
  | signed bits => bits
  | unsigned bits => bits

abbrev int32 : IntFormat := signed 32
abbrev int64 : IntFormat := signed 64
abbrev int128 : IntFormat := signed 128
abbrev uint32 : IntFormat := unsigned 32
abbrev uint64 : IntFormat := unsigned 64

theorem lo_le_zero (f : IntFormat) : f.lo ≤ 0 := by
  cases f with
  | signed bits =>
    have := count_pos (bits - 1)
    simp only [lo]
    omega
  | unsigned bits => exact Int.le_refl _

theorem zero_le_hi (f : IntFormat) : 0 ≤ f.hi := by
  cases f with
  | signed bits =>
    have := count_pos (bits - 1)
    simp only [hi]
    omega
  | unsigned bits =>
    have := count_pos bits
    simp only [hi]
    omega

end IntFormat

structure Word (f : IntFormat) where
  val : Int
  lo_le : f.lo ≤ val
  le_hi : val ≤ f.hi
deriving DecidableEq, Repr

namespace Word

variable {f : IntFormat}

@[ext] theorem ext {a b : Word f} (h : a.val = b.val) : a = b := by
  cases a; cases b; cases h; rfl

def ofInt? (f : IntFormat) (n : Int) : Option (Word f) :=
  if h : f.lo ≤ n ∧ n ≤ f.hi then some ⟨n, h.1, h.2⟩ else none

@[simp] theorem ofInt?_val (w : Word f) : ofInt? f w.val = some w := by
  simp [ofInt?, w.lo_le, w.le_hi]

def next? (w : Word f) : Option (Word f) :=
  ofInt? f (w.val + 1)

def prev? (w : Word f) : Option (Word f) :=
  ofInt? f (w.val - 1)

instance : Zero (Word f) := ⟨⟨0, f.lo_le_zero, f.zero_le_hi⟩⟩

instance : Inhabited (Word f) := ⟨0⟩

def text (w : Word f) : String :=
  toString w.val

end Word

end ProtoRules
