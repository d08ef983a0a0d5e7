import ProtoRules.Proofs.JsonParts

/-!
What the reader of JSON text makes. Integers are in range, and no container stands inside more
containers than may be.
-/

namespace ProtoRules.Json

/-- A value as the reader makes it inside so many containers. -/
abbrev Read (level : Nat) (j : Json) : Prop :=
  Throughout (fun n i => i.IsRanged ∧ i.IsAllowed n) level j

def IsNumber : Json → Prop
  | int n => Ranged n
  | float _ => True
  | unreadable => True
  | _ => False

theorem IsNumber.read {j : Json} (number : j.IsNumber) (level : Nat) : Read level j := by
  cases j with
  | int n => exact .scalar ⟨number, nofun⟩ rfl
  | float x => exact .scalar ⟨trivial, nofun⟩ rfl
  | unreadable => exact .scalar ⟨trivial, nofun⟩ rfl
  | _ => exact number.elim

private theorem appendDigits_lt {n : Nat} (small : n < IntFormat.count 64) (cs : List Char) :
    (appendDigits n cs).1 < IntFormat.count 64 := by
  induction cs generalizing n with
  | nil => exact small
  | cons c cs ih =>
      rw [appendDigits]
      split
      · rename_i fits
        exact ih fits
      · exact small

private theorem isNumber_integerValue (negative : Bool) {n : Nat} (small : n < IntFormat.count 64) :
    (integerValue negative n).IsNumber := by
  cases negative with
  | false =>
      have low : -(IntFormat.count 63 : Int) ≤ n := by omega
      exact ⟨low, Int.ofNat_lt.mpr small⟩
  | true =>
      rw [integerValue, Bool.not_true, if_neg Bool.false_ne_true]
      split
      · trivial
      · rename_i within
        have low : -(IntFormat.count 63 : Int) ≤ -(n : Int) := by omega
        have positive := IntFormat.count_pos 64
        exact ⟨low, by omega⟩

private theorem isNumber_floatValue (negative : Bool) (n : Nat) (e : Int) :
    (floatValue negative n e).IsNumber := by
  rw [floatValue]
  split
  · trivial
  · trivial

private theorem isNumber_exponentValue (negative down : Bool) (n : Nat) (drift : Int)
    (cs : List Char) :
    (exponentValue negative n drift down cs).IsNumber := by
  rw [exponentValue]
  split
  · split
    · trivial
    · trivial
  · exact isNumber_floatValue _ _ _

private theorem isNumber_value (w : Written) : w.value.IsNumber := by
  obtain ⟨negative, whole, fraction, exponent⟩ := w
  cases exponent with
  | some exponent => exact isNumber_exponentValue _ _ _ _ _
  | none =>
      cases fraction with
      | some fraction => exact isNumber_floatValue _ _ _
      | none =>
          -- Digits are appended only while the number fits, so it is in range whatever is left.
          have fits : (appendDigits 0 whole).1 < IntFormat.count 64 :=
            appendDigits_lt (IntFormat.count_pos 64) whole
          unfold Written.value
          dsimp only
          split
          · exact isNumber_floatValue _ _ _
          · exact isNumber_integerValue _ fits

private theorem read_of_readNumber {cs rest : List Char} {j : Json}
    (read : readNumber cs = some (j, rest)) (level : Nat) : Read level j := by
  simp only [readNumber, Option.bind_eq_bind, Option.bind_eq_some_iff, Option.pure_def,
    Option.some_inj, Prod.mk.injEq] at read
  obtain ⟨_, _, _, _, _, _, rfl, _⟩ := read
  exact (isNumber_value _).read level

section Steps

variable {fuel : Nat}

private theorem read_of_readItems
    (values : ∀ {level cs j rest}, readValue fuel level cs = some (j, rest) → Read level j)
    (earlier : ∀ {level cs items rest}, readItems fuel level cs = some (items, rest) →
      ∀ j ∈ items, Read level j)
    {level : Nat} {cs rest : List Char} {items : List Json}
    (read : readItems (fuel + 1) level cs = some (items, rest)) : ∀ j ∈ items, Read level j := by
  rw [readItems, Option.bind_eq_bind, Option.bind_eq_some_iff] at read
  obtain ⟨⟨item, tail⟩, value, more⟩ := read
  have first := values value
  dsimp only at more
  split at more
  · rw [Option.bind_eq_bind, Option.bind_eq_some_iff] at more
    obtain ⟨⟨others, tail⟩, listed, same⟩ := more
    cases same
    exact List.forall_mem_cons.mpr ⟨first, earlier listed⟩
  · cases more
    exact List.forall_mem_singleton.mpr first
  · cases more

private theorem read_of_readMembers
    (values : ∀ {level cs j rest}, readValue fuel level cs = some (j, rest) → Read level j)
    (earlier : ∀ {level cs members rest}, readMembers fuel level cs = some (some members, rest) →
      ∀ m ∈ members, Read level m.2)
    {level : Nat} {cs rest : List Char} {members : List Member}
    (read : readMembers (fuel + 1) level cs = some (some members, rest)) :
    ∀ m ∈ members, Read level m.2 := by
  rw [readMembers] at read
  split at read
  · rw [Option.bind_eq_bind, Option.bind_eq_some_iff] at read
    obtain ⟨⟨key, tail⟩, _, more⟩ := read
    dsimp only at more
    split at more
    · rw [Option.bind_eq_bind, Option.bind_eq_some_iff] at more
      obtain ⟨⟨j, tail⟩, value, more⟩ := more
      have first := values value
      dsimp only at more
      split at more
      · rw [Option.bind_eq_bind, Option.bind_eq_some_iff] at more
        obtain ⟨⟨others, tail⟩, listed, same⟩ := more
        cases key with
        | none => cases same
        | some key =>
            cases others with
            | none => cases same
            | some others =>
                cases same
                exact List.forall_mem_cons.mpr ⟨first, earlier listed⟩
      · cases key with
        | none => cases more
        | some key =>
            cases more
            exact List.forall_mem_singleton.mpr first
      · cases more
    · cases more
  · cases read

/-- A container past the limit is not kept. -/
private theorem read_limited {level : Nat} {j : Json} (ranged : j.IsRanged)
    (inside : ∀ i ∈ j.parts, Read (level + 1) i) :
    Read level (if nestingLimit ≤ level then unreadable else j) := by
  split
  · exact .scalar ⟨trivial, nofun⟩ rfl
  · rename_i within
    exact .intro ⟨ranged, fun _ => Nat.not_le.mp within⟩ inside

private theorem read_of_readValue
    (items : ∀ {level cs items rest}, readItems fuel level cs = some (items, rest) →
      ∀ j ∈ items, Read level j)
    (members : ∀ {level cs members rest}, readMembers fuel level cs = some (some members, rest) →
      ∀ m ∈ members, Read level m.2)
    {level : Nat} {cs rest : List Char} {j : Json}
    (read : readValue (fuel + 1) level cs = some (j, rest)) : Read level j := by
  rw [readValue] at read
  split at read
  · cases read
    exact .scalar ⟨trivial, nofun⟩ rfl
  · cases read
    exact .scalar ⟨trivial, nofun⟩ rfl
  · cases read
    exact .scalar ⟨trivial, nofun⟩ rfl
  · rw [Option.bind_eq_bind, Option.bind_eq_some_iff] at read
    obtain ⟨⟨text, tail⟩, _, same⟩ := read
    cases text with
    | none =>
        cases same
        exact .scalar ⟨trivial, nofun⟩ rfl
    | some text =>
        cases same
        exact .scalar ⟨trivial, nofun⟩ rfl
  · dsimp only at read
    split at read
    · cases read
      exact read_limited trivial nofun
    · rw [Option.bind_eq_bind, Option.bind_eq_some_iff] at read
      obtain ⟨⟨listed, tail⟩, inside, same⟩ := read
      cases same
      exact read_limited trivial (items inside)
  · dsimp only at read
    split at read
    · cases read
      exact read_limited trivial nofun
    · rw [Option.bind_eq_bind, Option.bind_eq_some_iff] at read
      obtain ⟨⟨listed, tail⟩, inside, same⟩ := read
      cases same
      cases listed with
      | none => exact read_limited trivial nofun
      | some listed =>
          refine read_limited trivial fun i part => ?_
          obtain ⟨m, member, rfl⟩ := List.mem_map.mp part
          exact members inside m member
  · exact read_of_readNumber read level

end Steps

/-- Whatever is read is a value as it may be at its place; the induction is on the fuel. -/
private theorem read_of_fuel (fuel : Nat) :
    (∀ {level cs j rest}, readValue fuel level cs = some (j, rest) → Read level j) ∧
    (∀ {level cs items rest}, readItems fuel level cs = some (items, rest) →
      ∀ j ∈ items, Read level j) ∧
    ∀ {level cs members rest}, readMembers fuel level cs = some (some members, rest) →
      ∀ m ∈ members, Read level m.2 := by
  induction fuel with
  | zero => exact ⟨nofun, nofun, nofun⟩
  | succ fuel ih =>
      obtain ⟨values, items, members⟩ := ih
      exact ⟨read_of_readValue items members, read_of_readItems values items,
        read_of_readMembers values members⟩

theorem read_of_parse {text : String} {j : Json} (parsed : parse text = some j) : Read 0 j := by
  obtain ⟨⟨value, rest⟩, read, ended⟩ := Option.bind_eq_some_iff.mp parsed
  obtain ⟨_, _, same⟩ := Option.bind_eq_some_iff.mp ended
  cases same
  exact (read_of_fuel _).1 read

end ProtoRules.Json
