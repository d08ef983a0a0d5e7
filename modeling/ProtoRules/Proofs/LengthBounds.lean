import ProtoRules.Proofs.Alternatives

/-!
Least and greatest lengths over several alternatives. Each alternative is tested by itself, so
bounds that one alternative declares fit each other; those of two alternatives are never compared.
Hence a list of accepted alternatives is consistent exactly if every two of them are.
-/

namespace ProtoRules

/-- What an alternative says about one measure of a value: the least and the greatest size, and the
sizes of the parts that it must have. -/
structure Sizes where
  least : Option Length
  greatest : Option Length
  parts : List Nat

structure Sizes.Fits (a b : Sizes) : Prop where
  least_le : ∀ min ∈ a.least, ∀ max ∈ b.greatest, min.val ≤ max.val
  part_le : ∀ size ∈ a.parts, ∀ max ∈ b.greatest, size ≤ max.val

instance (a b : Sizes) : Decidable (a.Fits b) :=
  decidable_of_iff ((∀ min ∈ a.least, ∀ max ∈ b.greatest, min.val ≤ max.val) ∧
      ∀ size ∈ a.parts, ∀ max ∈ b.greatest, size ≤ max.val)
    ⟨fun fits => ⟨fits.1, fits.2⟩, fun fits => ⟨fits.least_le, fits.part_le⟩⟩

theorem checkMinMax_eq_ok_iff {min max : Option Length} {minName maxName : String} :
    checkMinMax min max minName maxName = .ok () ↔ ∀ a ∈ min, ∀ b ∈ max, a.val ≤ b.val := by
  cases min <;> cases max <;> simp [checkMinMax]

theorem checkAffix_eq_ok_iff {name limitName : String} {size : Nat} {limit : Option Length} :
    checkAffix name size limitName limit = .ok () ↔ ∀ n ∈ limit, size ≤ n.val := by
  cases limit <;> simp [checkAffix]

theorem checkLen_eq_ok_iff {len min max : Option Length} {lenName minName maxName : String} :
    checkLen len min max lenName minName maxName = .ok () ↔
      (len.isSome = true → min = none ∧ max = none) := by
  cases len <;> simp [checkLen, bind_eq_ok_iff, exists_unit_iff]

namespace StringRule

def parts (r : StringRule) : List String :=
  r.startsWith.toList ++ r.endsWith.toList ++ r.contains.toList

def chars (r : StringRule) : Sizes :=
  ⟨r.minLen, r.maxLen, r.parts.map String.length⟩

def bytes (r : StringRule) : Sizes :=
  ⟨r.minBytes, r.maxBytes, r.parts.map String.utf8ByteSize⟩

structure Fits (a b : StringRule) : Prop where
  chars : a.chars.Fits b.chars
  bytes : a.bytes.Fits b.bytes
  limits : ∀ chars ∈ a.maxLen, ∀ bytes ∈ b.maxBytes, chars.val ≤ bytes.val

instance (a b : StringRule) : Decidable (a.Fits b) :=
  decidable_of_iff (a.chars.Fits b.chars ∧ a.bytes.Fits b.bytes ∧
      ∀ chars ∈ a.maxLen, ∀ bytes ∈ b.maxBytes, chars.val ≤ bytes.val)
    ⟨fun fits => ⟨fits.1, fits.2.1, fits.2.2⟩, fun fits => ⟨fits.chars, fits.bytes, fits.limits⟩⟩

theorem checkPart_eq_ok_iff {r : StringRule} {name : String} {part : Option String} :
    r.checkPart name part = .ok () ↔ ∀ s ∈ part.toList,
      (∀ n ∈ r.maxLen, s.length ≤ n.val) ∧ ∀ n ∈ r.maxBytes, s.utf8ByteSize ≤ n.val := by
  cases part with
  | none => simp [checkPart]
  | some s =>
      simp only [checkPart, bind_eq_ok_iff, exists_unit_iff, checkAffix_eq_ok_iff,
        Option.toList_some, List.forall_mem_singleton]

theorem fits_self_iff {r : StringRule} : r.Fits r ↔
    checkMinMax r.minLen r.maxLen "min_len" "max_len" = .ok () ∧
      checkMinMax r.minBytes r.maxBytes "min_bytes" "max_bytes" = .ok () ∧
      (∀ chars ∈ r.maxLen, ∀ bytes ∈ r.maxBytes, chars.val ≤ bytes.val) ∧
      r.checkPart "prefix" r.startsWith = .ok () ∧ r.checkPart "suffix" r.endsWith = .ok () ∧
        r.checkPart "contains" r.contains = .ok () := by
  have parts : (r.checkPart "prefix" r.startsWith = .ok () ∧
      r.checkPart "suffix" r.endsWith = .ok () ∧ r.checkPart "contains" r.contains = .ok ()) ↔
        ∀ s ∈ r.parts, (∀ n ∈ r.maxLen, s.length ≤ n.val) ∧
          ∀ n ∈ r.maxBytes, s.utf8ByteSize ≤ n.val := by
    simp only [checkPart_eq_ok_iff, StringRule.parts, List.forall_mem_append, and_assoc]
  rw [parts, checkMinMax_eq_ok_iff, checkMinMax_eq_ok_iff]
  constructor
  · rintro ⟨⟨lengths, partLengths⟩, ⟨sizes, partSizes⟩, limits⟩
    exact ⟨lengths, sizes, limits, fun s part =>
      ⟨partLengths _ (List.mem_map_of_mem part), partSizes _ (List.mem_map_of_mem part)⟩⟩
  · rintro ⟨lengths, sizes, limits, fit⟩
    exact ⟨⟨lengths, List.forall_mem_map.mpr fun s part => (fit s part).1⟩,
      ⟨sizes, List.forall_mem_map.mpr fun s part => (fit s part).2⟩, limits⟩

/-- What the values of an alternative are tested for by themselves. -/
theorem checkValues_eq_ok_iff {r : StringRule} : r.checkValues = .ok () ↔
    (r.len.isSome = true → r.minLen = none ∧ r.maxLen = none) ∧
      (r.lenBytes.isSome = true → r.minBytes = none ∧ r.maxBytes = none) ∧
      checkSets r.allowed.length r.denied.length = .ok () ∧
      checkPattern r.effectivePattern? r.allowed.length = .ok () ∧ r.Fits r := by
  have steps : r.checkValues = .ok () ↔
      checkLen r.len r.minLen r.maxLen "len" "min_len" "max_len" = .ok () ∧
      checkLen r.lenBytes r.minBytes r.maxBytes "len_bytes" "min_bytes" "max_bytes" = .ok () ∧
      checkMinMax r.minLen r.maxLen "min_len" "max_len" = .ok () ∧
      checkMinMax r.minBytes r.maxBytes "min_bytes" "max_bytes" = .ok () ∧
      (∀ chars ∈ r.maxLen, ∀ bytes ∈ r.maxBytes, chars.val ≤ bytes.val) ∧
      checkSets r.allowed.length r.denied.length = .ok () ∧
      checkPattern r.effectivePattern? r.allowed.length = .ok () ∧
      r.checkPart "prefix" r.startsWith = .ok () ∧ r.checkPart "suffix" r.endsWith = .ok () ∧
        r.checkPart "contains" r.contains = .ok () := by
    cases chars : r.maxLen <;> cases bytes : r.maxBytes <;>
      simp [checkValues, chars, bytes, bind_eq_ok_iff, exists_unit_iff]
  rw [steps, checkLen_eq_ok_iff, checkLen_eq_ok_iff, fits_self_iff]
  constructor
  · rintro ⟨chars, bytes, lengths, sizes, limits, sets, pattern, parts⟩
    exact ⟨chars, bytes, sets, pattern, lengths, sizes, limits, parts⟩
  · rintro ⟨chars, bytes, sets, pattern, lengths, sizes, limits, parts⟩
    exact ⟨chars, bytes, lengths, sizes, limits, sets, pattern, parts⟩

theorem fits_self_of_checkValues {r : StringRule} (passed : r.checkValues = .ok ()) :
    r.Fits r :=
  (checkValues_eq_ok_iff.mp passed).2.2.2.2

end StringRule

namespace BytesRule

def parts (r : BytesRule) : List Bytes :=
  r.startsWith.toList ++ r.endsWith.toList ++ r.contains.toList

def sizes (r : BytesRule) : Sizes :=
  ⟨r.minLen, r.maxLen, r.parts.map List.length⟩

private theorem part_le_of_checkPart {r : BytesRule} {name : String} {part : Option Bytes}
    (passed : r.checkPart name part = .ok ()) :
    ∀ bytes ∈ part.toList, ∀ n ∈ r.maxLen, bytes.length ≤ n.val := by
  intro bytes member
  rw [Option.mem_toList] at member
  rw [member] at passed
  exact checkAffix_eq_ok_iff.mp passed

theorem fits_self_of_checkValues {r : BytesRule} (passed : r.checkValues = .ok ()) :
    r.sizes.Fits r.sizes := by
  simp only [checkValues, bind_eq_ok_iff, exists_unit_iff] at passed
  obtain ⟨_, lengths, _, _, first, last, inside⟩ := passed
  have parts : ∀ bytes ∈ r.parts, ∀ n ∈ r.maxLen, bytes.length ≤ n.val := by
    simp only [parts, List.forall_mem_append]
    exact ⟨⟨part_le_of_checkPart first, part_le_of_checkPart last⟩, part_le_of_checkPart inside⟩
  refine ⟨checkMinMax_eq_ok_iff.mp lengths, ?_⟩
  intro size member
  obtain ⟨bytes, part, rfl⟩ := List.mem_map.mp member
  exact parts bytes part

end BytesRule

def RepeatedRule.sizes {ρ : Type} (r : RepeatedRule ρ) : Sizes :=
  ⟨r.minItems, r.maxItems, []⟩

def MapRule.sizes {ρ : Type} (r : MapRule ρ) : Sizes :=
  ⟨r.minPairs, r.maxPairs, []⟩

private theorem fits_self_of_checkMinMax {min max : Option Length} {minName maxName : String}
    (passed : checkMinMax min max minName maxName = .ok ()) :
    (Sizes.mk min max []).Fits (Sizes.mk min max []) :=
  ⟨checkMinMax_eq_ok_iff.mp passed, fun _ member => absurd member List.not_mem_nil⟩

private theorem forall_mem_iff_pairwise {α : Type} {Fits : α → α → Prop} {rules : List α}
    (self : ∀ r ∈ rules, Fits r r) :
    (∀ a ∈ rules, ∀ b ∈ rules, Fits a b) ↔ rules.Pairwise fun a b => Fits a b ∧ Fits b a := by
  constructor
  · intro every
    exact List.pairwise_of_forall_mem_list fun a aMember b bMember =>
      ⟨every a aMember b bMember, every b bMember a aMember⟩
  · intro pairs a aMember b bMember
    have forwards : rules.Pairwise Fits := pairs.imp And.left
    have backwards : rules.Pairwise (flip Fits) := pairs.imp And.right
    exact List.Pairwise.forall_of_forall_of_flip self forwards backwards aMember bMember

/-- Lengths are consistent over all alternatives of an accepted list exactly if they are between
every two of them: within one alternative acceptance alone is enough. -/
theorem lengths_consistent_iff_pairwise (inject : Bool) :
    (∀ rules : List StringRule, checkString inject rules = .ok () →
      ((∀ a ∈ rules, ∀ b ∈ rules, a.Fits b) ↔
        rules.Pairwise fun a b => a.Fits b ∧ b.Fits a)) ∧
    (∀ rules : List BytesRule, checkBytes inject rules = .ok () →
      ((∀ a ∈ rules, ∀ b ∈ rules, a.sizes.Fits b.sizes) ↔
        rules.Pairwise fun a b => a.sizes.Fits b.sizes ∧ b.sizes.Fits a.sizes)) ∧
    (∀ (schema : Schema) (element : ElementType) (rules : List (RepeatedRule FieldRules)),
      checkRepeated schema element inject rules = .ok () →
        ((∀ a ∈ rules, ∀ b ∈ rules, a.sizes.Fits b.sizes) ↔
          rules.Pairwise fun a b => a.sizes.Fits b.sizes ∧ b.sizes.Fits a.sizes)) ∧
    ∀ (schema : Schema) (key value : ElementType) (rules : List (MapRule FieldRules)),
      checkMap schema key value inject rules = .ok () →
        ((∀ a ∈ rules, ∀ b ∈ rules, a.sizes.Fits b.sizes) ↔
          rules.Pairwise fun a b => a.sizes.Fits b.sizes ∧ b.sizes.Fits a.sizes) := by
  refine ⟨?_, ?_, ?_, ?_⟩
  · intro rules accepted
    obtain ⟨tested, _⟩ := checkString_eq_ok_iff.mp accepted
    apply forall_mem_iff_pairwise
    intro r member
    exact StringRule.fits_self_of_checkValues (tested r member).2.2
  · intro rules accepted
    obtain ⟨tested, _⟩ := checkBytes_eq_ok_iff.mp accepted
    apply forall_mem_iff_pairwise
    intro r member
    exact BytesRule.fits_self_of_checkValues (tested r member).2
  · intro schema element rules accepted
    obtain ⟨tested, _⟩ := checkRepeated_eq_ok_iff.mp accepted
    apply forall_mem_iff_pairwise
    intro r member
    exact fits_self_of_checkMinMax (tested r member).2.1
  · intro schema key value rules accepted
    obtain ⟨tested, _⟩ := checkMap_eq_ok_iff.mp accepted
    apply forall_mem_iff_pairwise
    intro r member
    exact fits_self_of_checkMinMax (tested r member).2.1

section Split

variable (least greatest : Length)

def splitStrings : List StringRule :=
  [{ minLen := some least, error := some { method := "short" } },
    { maxLen := some greatest, error := some { method := "long" } }]

def splitBytes : List BytesRule :=
  [{ minLen := some least, error := some { method := "short" } },
    { maxLen := some greatest, error := some { method := "long" } }]

def splitItems : List (RepeatedRule FieldRules) :=
  [{ minItems := some least, error := some { method := "few" } },
    { maxItems := some greatest, error := some { method := "many" } }]

def splitPairs : List (MapRule FieldRules) :=
  [{ minPairs := some least, error := some { method := "few" } },
    { maxPairs := some greatest, error := some { method := "many" } }]

end Split

def three : Length := ⟨3, by decide, by decide⟩

def five : Length := ⟨5, by decide, by decide⟩

theorem split_lengths_consistent :
    (checkString false (splitStrings three five) = .ok () ∧
      ∀ a ∈ splitStrings three five, ∀ b ∈ splitStrings three five, a.Fits b) ∧
    (checkBytes false (splitBytes three five) = .ok () ∧
      ∀ a ∈ splitBytes three five, ∀ b ∈ splitBytes three five, a.sizes.Fits b.sizes) ∧
    (checkRepeated (Schema.ofFiles []) (.scalar .bool) false (splitItems three five) = .ok () ∧
      ∀ a ∈ splitItems three five, ∀ b ∈ splitItems three five, a.sizes.Fits b.sizes) ∧
    (checkMap (Schema.ofFiles []) (.scalar .string) (.scalar .bool) false
        (splitPairs three five) = .ok () ∧
      ∀ a ∈ splitPairs three five, ∀ b ∈ splitPairs three five, a.sizes.Fits b.sizes) := by
  obtain ⟨strings, bytes, items, pairs⟩ := lengths_consistent_iff_pairwise false
  refine ⟨⟨rfl, ?_⟩, ⟨rfl, ?_⟩, ⟨rfl, ?_⟩, ⟨rfl, ?_⟩⟩
  · exact (strings _ rfl).mpr (by decide)
  · exact (bytes _ rfl).mpr (by decide)
  · exact (items (Schema.ofFiles []) (.scalar .bool) _ rfl).mpr (by decide)
  · exact (pairs (Schema.ofFiles []) (.scalar .string) (.scalar .bool) _ rfl).mpr (by decide)

/-- A least size above the greatest one is accepted if two alternatives declare them. -/
theorem inverted_split_lengths_accepted :
    (checkString false (splitStrings five three) = .ok () ∧
      ¬ ∀ a ∈ splitStrings five three, ∀ b ∈ splitStrings five three, a.Fits b) ∧
    (checkBytes false (splitBytes five three) = .ok () ∧
      ¬ ∀ a ∈ splitBytes five three, ∀ b ∈ splitBytes five three, a.sizes.Fits b.sizes) ∧
    (checkRepeated (Schema.ofFiles []) (.scalar .bool) false (splitItems five three) = .ok () ∧
      ¬ ∀ a ∈ splitItems five three, ∀ b ∈ splitItems five three, a.sizes.Fits b.sizes) ∧
    (checkMap (Schema.ofFiles []) (.scalar .string) (.scalar .bool) false
        (splitPairs five three) = .ok () ∧
      ¬ ∀ a ∈ splitPairs five three, ∀ b ∈ splitPairs five three, a.sizes.Fits b.sizes) := by
  refine ⟨⟨rfl, ?_⟩, ⟨rfl, ?_⟩, ⟨rfl, ?_⟩, ⟨rfl, ?_⟩⟩ <;> decide

end ProtoRules
