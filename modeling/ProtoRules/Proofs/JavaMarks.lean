import ProtoRules.Emit.JavaConstants

/-!
Marks of Java constants. The name of a constant is made of the name of its field, the suffix of its
position, and a mark: what the constant holds and for which alternative. Marks can be read off names
again, so that constants with different marks have different names.
-/

namespace ProtoRules.Java

inductive Mark
  | rule (label : String) (alternative : Nat)
  | error (alternative : Nat)
  | required
deriving DecidableEq, Repr

def ruleLabels : List String :=
  ["Const", "Lt", "Lte", "Gt", "Gte", "In", "NotIn", "Pattern", "Prefix", "Contains", "Suffix",
    "Within"]

namespace Mark

def label : Mark → String
  | rule label _ => label
  | error _ => "Error"
  | required => "RequiredError"

def digits : Mark → String
  | rule _ alternative => position alternative
  | error alternative => toString alternative
  | required => ""

def Proper : Mark → Prop
  | rule label _ => label ∈ ruleLabels
  | _ => True

def isError : Mark → Bool
  | rule _ _ => false
  | _ => true

theorem proper_of_isError {m : Mark} (error : m.isError = true) : m.Proper := by
  cases m with
  | rule label alternative => cases error
  | _ => trivial

private theorem append_inj_of_digits {a b d e : List Char} (aPlain : ∀ c ∈ a, c.isDigit = false)
    (bPlain : ∀ c ∈ b, c.isDigit = false) (dDigits : ∀ c ∈ d, c.isDigit = true)
    (eDigits : ∀ c ∈ e, c.isDigit = true) (same : a ++ d = b ++ e) : a = b ∧ d = e := by
  have front : ∀ {p s : List Char}, (∀ c ∈ p, c.isDigit = false) → (∀ c ∈ s, c.isDigit = true) →
      (p ++ s).takeWhile (!·.isDigit) = p := by
    intro p s plain digits
    rw [List.takeWhile_append_of_pos (by simpa using plain)]
    cases s with
    | nil => simp
    | cons c s => simp [digits c List.mem_cons_self]
  have labels : a = b := by
    rw [← front aPlain dDigits, same, front bPlain eDigits]
  subst labels
  exact ⟨rfl, List.append_cancel_left same⟩

private theorem digits_isDigit (m : Mark) : ∀ c ∈ m.digits.toList, c.isDigit = true := by
  have number : ∀ n : Nat, ∀ c ∈ (toString n).toList, c.isDigit = true := by
    intro n c member
    have member : c ∈ n.repr.toList := member
    rw [Nat.toList_repr] at member
    exact Nat.isDigit_of_mem_toDigits (by decide) (by decide) member
  have later : ∀ n : Nat, ∀ c ∈ (position n).toList, c.isDigit = true := by
    intro n
    unfold position
    split
    · simp
    · exact number n
  cases m with
  | rule label alternative => exact later alternative
  | error alternative => exact number alternative
  | required => simp [digits]

private theorem label_mem {m : Mark} (proper : m.Proper) :
    m.label ∈ "Error" :: "RequiredError" :: ruleLabels := by
  cases m with
  | rule label alternative =>
      exact List.mem_cons_of_mem _ (List.mem_cons_of_mem _ proper)
  | error alternative => exact List.mem_cons_self
  | required => exact List.mem_cons_of_mem _ List.mem_cons_self

private theorem label_plain {m : Mark} (proper : m.Proper) :
    ∀ c ∈ m.label.toList, c.isDigit = false := by
  have plain : ∀ label ∈ "Error" :: "RequiredError" :: ruleLabels,
      label.toList.all (!·.isDigit) = true := by decide
  simpa using plain m.label (label_mem proper)

private theorem underscore_notMem_text {m : Mark} (proper : m.Proper) :
    '_' ∉ (m.label ++ m.digits).toList := by
  have plain : ∀ label ∈ "Error" :: "RequiredError" :: ruleLabels, '_' ∉ label.toList := by decide
  rw [String.toList_append, List.mem_append]
  rintro (inLabel | inDigits)
  · exact plain m.label (label_mem proper) inLabel
  · exact absurd (m.digits_isDigit _ inDigits) (by decide)

private theorem toString_injective {m n : Nat} (same : toString m = toString n) : m = n := by
  have digits : Nat.toDigits 10 m = Nat.toDigits 10 n := by
    rw [← Nat.toList_repr, ← Nat.toList_repr]
    exact congrArg String.toList same
  have read := congrArg (Nat.ofDigitChars 10 · 0) digits
  simpa only [Nat.ofDigitChars_toDigits (by decide : 1 < 10) (by decide : 10 ≤ 10)] using read

private theorem position_injective {m n : Nat} (same : position m = position n) : m = n := by
  have nonempty : ∀ k : Nat, "" ≠ toString k := by
    intro k empty
    have digits : [] = k.repr.toList := congrArg String.toList empty
    rw [Nat.toList_repr] at digits
    exact Nat.toDigits_ne_nil digits.symm
  unfold position at same
  split at same
  · split at same
    · omega
    · exact absurd same (nonempty n)
  · split at same
    · exact absurd same.symm (nonempty m)
    · exact toString_injective same

private theorem text_injective {m n : Mark} (mProper : m.Proper) (nProper : n.Proper)
    (same : m.label ++ m.digits = n.label ++ n.digits) : m = n := by
  have characters : m.label.toList ++ m.digits.toList = n.label.toList ++ n.digits.toList := by
    rw [← String.toList_append, ← String.toList_append, same]
  obtain ⟨labels, digits⟩ := append_inj_of_digits (label_plain mProper) (label_plain nProper)
    m.digits_isDigit n.digits_isDigit characters
  have labels : m.label = n.label := String.toList_inj.mp labels
  have digits : m.digits = n.digits := String.toList_inj.mp digits
  have errors : "Error" ∉ ruleLabels ∧ "RequiredError" ∉ ruleLabels := by decide
  cases m with
  | rule label i =>
      cases n with
      | rule other j =>
          have labels : label = other := labels
          rw [labels, position_injective digits]
      | error j =>
          have labels : label = "Error" := labels
          exact absurd (labels ▸ mProper) errors.1
      | required =>
          have labels : label = "RequiredError" := labels
          exact absurd (labels ▸ mProper) errors.2
  | error i =>
      cases n with
      | rule other j =>
          have labels : other = "Error" := labels.symm
          exact absurd (labels ▸ nProper) errors.1
      | error j => rw [toString_injective digits]
      | required => exact absurd (show "Error" = "RequiredError" from labels) (by decide)
  | required =>
      cases n with
      | rule other j =>
          have labels : other = "RequiredError" := labels.symm
          exact absurd (labels ▸ nProper) errors.2
      | error j => exact absurd (show "RequiredError" = "Error" from labels) (by decide)
      | required => rfl

def name (c : Context) (m : Mark) : String :=
  Text.camel c.field.name ++ c.suffix ++ "__" ++ m.label ++ m.digits

theorem name_error {c : Context} (owns : c.ownsErrors = true) (alternative : Nat) :
    (error alternative).name c = errorName c alternative := by
  have word : "__Error" = "__" ++ "Error" := by decide
  rw [errorName, if_pos owns, word, ← String.append_assoc]
  rfl

theorem name_required (c : Context) : required.name c = requiredName c := by
  have word : "__RequiredError" = "__" ++ "RequiredError" := by decide
  have empty : required.name c =
      Text.camel c.field.name ++ c.suffix ++ "__" ++ "RequiredError" ++ "" := rfl
  rw [requiredName, empty, String.append_empty, word, ← String.append_assoc]

end Mark

/-- What the name of a constant is made from: the field or the oneof that it belongs to, the suffix
of its position, and its mark. -/
structure Origin where
  owner : String
  suffix : String
  mark : Mark
deriving DecidableEq, Repr

namespace Origin

def stem (o : Origin) : String :=
  Text.camel o.owner ++ o.suffix

def name (o : Origin) : String :=
  o.stem ++ "__" ++ o.mark.label ++ o.mark.digits

private theorem append_inj_of_underscore {a b d e : List Char} (dPlain : '_' ∉ d) (ePlain : '_' ∉ e)
    (same : a ++ '_' :: d = b ++ '_' :: e) : a = b ∧ d = e := by
  have cut : ∀ {p s t : List Char}, '_' ∉ t → '_' :: t = p ++ '_' :: s → p = [] ∧ t = s := by
    intro p s t plain same
    cases p with
    | nil => exact ⟨rfl, (List.cons.inj same).2⟩
    | cons c p =>
        have inside : '_' ∈ p ++ '_' :: s := List.mem_append_right _ List.mem_cons_self
        exact absurd ((List.cons.inj same).2 ▸ inside) plain
  rcases List.append_eq_append_iff.mp same with ⟨p, rfl, rest⟩ | ⟨p, rfl, rest⟩
  · obtain ⟨rfl, rfl⟩ := cut dPlain rest
    exact ⟨(List.append_nil a).symm, rfl⟩
  · obtain ⟨rfl, rfl⟩ := cut ePlain rest
    exact ⟨List.append_nil b, rfl⟩

/-- A mark has no underscores, so that the last two of a name end what is in front of it. -/
theorem name_eq_iff {o p : Origin} (oProper : o.mark.Proper) (pProper : p.mark.Proper) :
    o.name = p.name ↔ o.stem = p.stem ∧ o.mark = p.mark := by
  constructor
  · intro same
    have word : "__".toList = ['_', '_'] := by decide
    have characters : (o.stem.toList ++ ['_']) ++ '_' :: (o.mark.label ++ o.mark.digits).toList =
        (p.stem.toList ++ ['_']) ++ '_' :: (p.mark.label ++ p.mark.digits).toList := by
      have whole := congrArg String.toList same
      simpa only [name, String.toList_append, word, List.append_assoc, List.cons_append,
        List.nil_append] using whole
    obtain ⟨stems, texts⟩ := append_inj_of_underscore (Mark.underscore_notMem_text oProper)
      (Mark.underscore_notMem_text pProper) characters
    exact ⟨String.toList_inj.mp (List.append_cancel_right stems),
      Mark.text_injective oProper pProper (String.toList_inj.mp texts)⟩
  · rintro ⟨stems, marks⟩
    rw [name, name, stems, marks]

end Origin

namespace Mark

def origin (c : Context) (m : Mark) : Origin :=
  ⟨c.field.name, c.suffix, m⟩

private theorem name_origin (c : Context) (m : Mark) : (m.origin c).name = m.name c :=
  rfl

theorem name_injective {c : Context} {m n : Mark} (mProper : m.Proper) (nProper : n.Proper)
    (same : m.name c = n.name c) : m = n := by
  rw [← name_origin, ← name_origin, Origin.name_eq_iff mProper nProper] at same
  exact same.2

/-- The suffix of a position can be read off the names of its constants. -/
theorem suffix_eq_of_name_eq {c d : Context} (field : c.field.name = d.field.name) {m n : Mark}
    (mProper : m.Proper) (nProper : n.Proper) (same : m.name c = n.name d) :
    c.suffix = d.suffix := by
  rw [← name_origin, ← name_origin, Origin.name_eq_iff mProper nProper] at same
  obtain ⟨stems, _⟩ := same
  simp only [Origin.stem, origin, field, String.append_right_inj] at stems
  exact stems

end Mark

end ProtoRules.Java
