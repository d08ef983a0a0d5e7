import Mathlib.Data.List.Nodup
import ProtoRules.Proofs.Exclusions

/-!
What alternatives declare together, read off their fields. A kind of rules has a table of what can
be declared, each entry a name with the test whether an alternative declares it. The alternatives
may stand together exactly if nothing is declared twice, what has to stand alone is all that is
declared, and no excluded pair is.
-/

namespace ProtoRules

namespace Exclusions

variable {t : Exclusions}

theorem excludes_iff {a b : String} : t.excludes a b = true ↔
    a ∈ t.alone ∨ b ∈ t.alone ∨ (a, b) ∈ t.pairs ∨ (b, a) ∈ t.pairs := by
  simp only [excludes, Bool.or_eq_true, List.contains_iff_mem, or_assoc]

/-- The condition on names, without reference to the order in which they are declared. -/
theorem admits_iff_apart {names : List String} : t.Admits names ↔ names.Nodup ∧
    (∀ a ∈ names, a ∈ t.alone → ∀ b ∈ names, b = a) ∧
      ∀ a ∈ names, ∀ b ∈ names, (a, b) ∈ t.pairs → a = b := by
  have apart : names.Nodup → (t.Admits names ↔
      (∀ a ∈ names, a ∈ t.alone → ∀ b ∈ names, b = a) ∧
        ∀ a ∈ names, ∀ b ∈ names, (a, b) ∈ t.pairs → a = b) := by
    intro nodup
    rw [admits_iff_of_nodup nodup]
    constructor
    · intro allowed
      have same : ∀ a ∈ names, ∀ b ∈ names, t.excludes a b = true → a = b := by
        intro a aMember b bMember excluded
        by_contra distinct
        rw [allowed a aMember b bMember distinct] at excluded
        cases excluded
      refine ⟨fun a aMember alone b bMember => ?_, fun a aMember b bMember pair => ?_⟩
      · exact (same a aMember b bMember (excludes_iff.mpr (.inl alone))).symm
      · exact same a aMember b bMember (excludes_iff.mpr (.inr (.inr (.inl pair))))
    · rintro ⟨alone, pairs⟩ a aMember b bMember distinct
      refine Bool.eq_false_iff.mpr fun excluded => distinct ?_
      rcases excludes_iff.mp excluded with first | second | pair | pair
      · exact (alone a aMember first b bMember).symm
      · exact alone b bMember second a aMember
      · exact pairs a aMember b bMember pair
      · exact (pairs b bMember a aMember pair).symm
  exact ⟨fun admitted => ⟨admitted.nodup, (apart admitted.nodup).mp admitted⟩,
    fun ⟨nodup, conditions⟩ => (apart nodup).mpr conditions⟩

end Exclusions

/-- What an alternative can declare: names, each with the test whether it does. -/
abbrev Declarable (α : Type) := List (String × (α → Bool))

namespace Declarable

variable {α : Type} {t : Exclusions} {table : Declarable α} {rules : List α}
  {entry : String × (α → Bool)}

def names (table : Declarable α) (r : α) : List String :=
  table.flatMap fun entry => named entry.1 (entry.2 r)

theorem mem_names_iff {name : String} {r : α} :
    name ∈ table.names r ↔ ∃ entry ∈ table, entry.1 = name ∧ entry.2 r = true := by
  simp only [names, List.mem_flatMap, mem_named, eq_comm]

private theorem count_names (distinct : (table.map Prod.fst).Nodup) (member : entry ∈ table)
    (r : α) :
    (table.names r).count entry.1 = if entry.2 r then 1 else 0 := by
  induction table with
  | nil => cases member
  | cons first rest ih =>
      obtain ⟨fresh, distinct⟩ := List.nodup_cons.mp distinct
      rw [names, List.flatMap_cons, List.count_append, count_named]
      rcases List.mem_cons.mp member with rfl | later
      · have absent : entry.1 ∉ Declarable.names rest r := by
          rw [mem_names_iff]
          rintro ⟨other, member, same, -⟩
          exact fresh (same ▸ List.mem_map_of_mem member)
        rw [← names, List.count_eq_zero.mpr absent]
        simp
      · have other : first.1 ≠ entry.1 := fun same => fresh (same ▸ List.mem_map_of_mem later)
        rw [← names, ih distinct later]
        simp [other]

private theorem count_flatMap_names (distinct : (table.map Prod.fst).Nodup)
    (member : entry ∈ table) :
    (rules.flatMap table.names).count entry.1 = rules.countP entry.2 := by
  induction rules with
  | nil => rfl
  | cons r rules ih =>
      rw [List.flatMap_cons, List.count_append, ih, count_names distinct member, List.countP_cons,
        Nat.add_comm]

/-- No name comes twice exactly if no entry of the table is declared by two alternatives. -/
theorem nodup_flatMap_names_iff (distinct : (table.map Prod.fst).Nodup) :
    (rules.flatMap table.names).Nodup ↔ ∀ entry ∈ table, rules.countP entry.2 ≤ 1 := by
  rw [List.nodup_iff_count_le_one]
  constructor
  · intro once entry member
    rw [← count_flatMap_names distinct member]
    exact once entry.1
  · intro once name
    by_cases declared : name ∈ rules.flatMap table.names
    · obtain ⟨r, -, set⟩ := List.mem_flatMap.mp declared
      obtain ⟨entry, member, rfl, -⟩ := mem_names_iff.mp set
      rw [count_flatMap_names distinct member]
      exact once entry member
    · rw [List.count_eq_zero.mpr declared]
      exact Nat.zero_le 1

/-- Alternatives may stand together if no two of them declare the same, nothing else is declared
where a name has to stand alone, and no excluded pair is. -/
theorem admits_iff (distinct : (table.map Prod.fst).Nodup)
    (proper : ∀ pair ∈ t.pairs, pair.1 ≠ pair.2) :
    t.Admits (rules.flatMap table.names) ↔
      (∀ entry ∈ table, rules.countP entry.2 ≤ 1) ∧
      (∀ name ∈ t.alone, ∀ a ∈ rules, name ∈ table.names a →
        ∀ entry ∈ table, entry.1 ≠ name → ∀ b ∈ rules, entry.2 b = false) ∧
      ∀ pair ∈ t.pairs, ∀ a ∈ rules, pair.1 ∈ table.names a →
        ∀ b ∈ rules, pair.2 ∉ table.names b := by
  rw [Exclusions.admits_iff_apart, nodup_flatMap_names_iff distinct]
  constructor
  · rintro ⟨once, alone, pairs⟩
    refine ⟨once, ?_, ?_⟩
    · intro name single a aMember set entry member other b bMember
      refine Bool.eq_false_iff.mpr fun also => other ?_
      have declared := List.mem_flatMap_of_mem bMember
        (mem_names_iff.mpr ⟨entry, member, rfl, also⟩)
      exact alone name (List.mem_flatMap_of_mem aMember set) single entry.1 declared
    · intro pair excluded a aMember first b bMember second
      exact proper pair excluded (pairs pair.1 (List.mem_flatMap_of_mem aMember first) pair.2
        (List.mem_flatMap_of_mem bMember second) excluded)
  · rintro ⟨once, alone, pairs⟩
    refine ⟨once, ?_, ?_⟩
    · intro name declared single other alsoDeclared
      obtain ⟨a, aMember, set⟩ := List.mem_flatMap.mp declared
      obtain ⟨b, bMember, also⟩ := List.mem_flatMap.mp alsoDeclared
      obtain ⟨entry, member, rfl, passes⟩ := mem_names_iff.mp also
      by_contra different
      rw [alone name single a aMember set entry member different b bMember] at passes
      cases passes
    · intro first firstDeclared second secondDeclared excluded
      obtain ⟨a, aMember, set⟩ := List.mem_flatMap.mp firstDeclared
      obtain ⟨b, bMember, also⟩ := List.mem_flatMap.mp secondDeclared
      exact absurd also (pairs (first, second) excluded a aMember set b bMember)

end Declarable

end ProtoRules
