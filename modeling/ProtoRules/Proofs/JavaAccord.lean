import ProtoRules.Proofs.JavaDeclarations
import ProtoRules.Proofs.JavaFaults
import ProtoRules.Proofs.JavaReferences

/-!
Accord of constants and statements at a single position: the statements refer to the constants that
are declared for the rules, and to errors that are declared there or that the enclosing rule raises.
-/

namespace ProtoRules.Java

open Constant Statement

variable {schema : Schema} {c : Context} {v : ValueRules} {ks ls : List Constant}
  {ss : List Statement}

/-- Whether an error goes by a name: it is declared where the position owns its errors, else it is
the one of the enclosing rule. -/
def Known (c : Context) (ks : List Constant) (name : String) (spec : ErrorSpec) : Prop :=
  if c.ownsErrors then ⟨errorType, name, errorCall c.errorBase spec⟩ ∈ ks
  else name = errorName c 0 ∧ c.inherited = some spec

theorem Known.mono {name : String} {spec : ErrorSpec} (known : Known c ks name spec)
    (more : ∀ k ∈ ks, k ∈ ls) : Known c ls name spec := by
  unfold Known at known ⊢
  split
  · rw [if_pos ‹_›] at known
    exact more _ known
  · rw [if_neg ‹_›] at known
    exact known

private theorem errorName_eq_of_borrows (borrows : c.ownsErrors = false) (i k : Nat) :
    errorName c i = errorName c k := by
  simp only [errorName, borrows, Bool.false_eq_true, if_false]

private theorem known_of_raised {own : Option ErrorSpec} {i : Nat} {name : String}
    {spec : ErrorSpec} (raises : c.Raises own) (raised : Raised c i own name spec)
    (declared : c.ownsErrors = true → ∀ s, own = some s →
      ⟨errorType, errorName c i, errorCall c.errorBase s⟩ ∈ ks) : Known c ks name spec := by
  obtain ⟨rfl, selected⟩ := raised
  unfold Context.Raises at raises
  unfold Known
  cases owns : c.ownsErrors with
  | true =>
      rw [owns, if_pos rfl] at raises
      obtain ⟨s, written⟩ := Option.isSome_iff_exists.mp raises
      have same : s = spec := by simpa [Context.error, owns, written] using selected
      rw [if_pos rfl, ← same]
      exact declared owns s written
  | false =>
      rw [owns, if_neg Bool.false_ne_true] at raises
      obtain ⟨s, lent⟩ := Option.isSome_iff_exists.mp raises
      have same : s = spec := by simpa [Context.error, owns, lent] using selected
      rw [if_neg Bool.false_ne_true, ← same]
      exact ⟨errorName_eq_of_borrows owns i 0, lent⟩

private theorem value_refers (accepts : c.Accepts v) (declared : valueConstants schema c v = .ok ks)
    (written : valueStatements schema c v = .ok ss) : Refers ss (ruleNames ks) (Known c ks) := by
  have declares := valueConstants_declares declared
  have refers : Refers ss (entryNames c (entries v)) (RaisedAmong c (entries v)) :=
    valueStatements_refers written
  rw [declares.rules]
  refine refers.mono ?_
  rintro name spec ⟨i, e, position, raised⟩
  have raises := entry_raises accepts e (List.mem_of_getElem? position)
  exact known_of_raised raises raised fun owns s own => declares.errors owns i e s position own

private theorem required_marked (c : Context) (rules : Option MessageRules) :
    ∃ ms, Marked c ms (Constant.required c rules) ∧ (∀ m ∈ ms, m = .required) ∧
      (c.ownsErrors = false → ms = []) := by
  have empty : ∃ ms, Marked c ms [] ∧ (∀ m ∈ ms, m = .required) ∧
      (c.ownsErrors = false → ms = []) :=
    ⟨[], .nil c, fun _ member => absurd member List.not_mem_nil, fun _ => rfl⟩
  unfold Constant.required
  split
  · split
    · rename_i owns
      refine ⟨[.required], ⟨?_, ?_, List.nodup_singleton _⟩, ?_, ?_⟩
      · exact congrArg (fun name => [name]) (Mark.name_required c).symm
      · exact List.forall_mem_singleton.mpr trivial
      · exact List.forall_mem_singleton.mpr rfl
      · exact fun borrows => absurd (owns.symm.trans borrows) (by decide)
    · exact empty
  · exact empty

private theorem known_of_missingOperand {m : MessageRules} {operand : Operand}
    (raises : c.Raises m.error)
    (isRequired : m.required = true) (selected : missingOperand c m = .ok operand) :
    ∃ name spec, operand = .error name spec ∧
      Known c (Constant.required c (some m)) name spec := by
  rcases missingOperand_cases raises with ⟨owns, spec, own, one⟩ | ⟨borrows, lent, one⟩
  · cases one.symm.trans selected
    refine ⟨_, spec, rfl, ?_⟩
    obtain ⟨skip, needed, error⟩ := m
    obtain rfl : needed = true := isRequired
    obtain rfl : error = some spec := own
    simp [Known, owns, Constant.required]
  · rw [one] at selected
    obtain ⟨name, spec, rfl, raised⟩ := raised_of_errorOperand selected
    refine ⟨name, spec, rfl, known_of_raised lent raised fun owns => ?_⟩
    rw [borrows] at owns
    cases owns

private theorem message_refers {m : Option MessageRules} (same : (m <|> c.messageRules) = m)
    (answered : c.AcceptsMissing m) (written : messageStatements c m = .ok ss) :
    Refers ss (ruleNames (Constant.required c m)) (Known c (Constant.required c m)) := by
  rw [ruleNames_required]
  unfold messageStatements at written
  dsimp only at written
  rw [same] at written
  let raised := Known c (Constant.required c m)
  have delegated : Refers (if c.shape.single?.any ElementType.isPlainMessage then
      [Statement.note ("Validate " ++ c.field.name), .delegate (presence c) (accessor c)] else [])
        [] raised := by
    split
    · exact .idle rfl
    · exact .nil
  split at written
  · cases written
    exact .idle rfl
  cases m with
  | none =>
      cases written
      exact delegated
  | some m =>
      dsimp only at written
      split at written
      · rename_i isRequired
        simp only [bind_eq_ok_iff, pure_eq_ok_iff, pure_bind] at written
        obtain ⟨operand, selected, rfl⟩ := written
        obtain ⟨name, spec, rfl, known⟩ :=
          known_of_missingOperand (answered m rfl isRequired) isRequired selected
        exact (Refers.required known (presence c) (accessor c)).append delegated
      · cases written
        exact delegated

private theorem wrapper_refers {inner : String → Rendered (List Statement)} {body : List Statement}
    (answered : c.AcceptsMissing c.messageRules) (inside : Refers body (ruleNames ls) (Known c ls))
    (reached : inner (accessor c ++ ".getValue()") = .ok body)
    (written : wrapperStatements inner c = .ok ss) :
    Refers ss (ruleNames (Constant.required c c.messageRules ++ ls))
      (Known c (Constant.required c c.messageRules ++ ls)) := by
  rw [ruleNames_append, ruleNames_required, List.nil_append]
  have within := inside.mono fun name spec known =>
    known.mono fun k member => List.mem_append_right (Constant.required c c.messageRules) member
  rw [wrapperStatements, reached, ok_bind] at written
  split at written
  · rename_i m kept
    obtain ⟨own, isRequired⟩ := Option.filter_eq_some_iff.mp kept
    simp only [bind_eq_ok_iff, pure_eq_ok_iff] at written
    obtain ⟨operand, selected, rfl⟩ := written
    obtain ⟨name, spec, rfl, known⟩ :=
      known_of_missingOperand (answered m own isRequired) isRequired selected
    refine within.unwrapped _ fun o same => ⟨name, spec, (Option.some.inj same).symm, ?_⟩
    rw [own]
    exact known.mono fun k member => List.mem_append_left _ member
  · simp only [pure_eq_ok_iff] at written
    subst written
    split
    · rename_i idle
      rw [List.isEmpty_iff] at idle
      rw [← idle]
      exact within
    · exact within.unwrapped _ fun o same => by cases same

theorem single_marked (declared : (constantsPass schema).single c = .ok ks) :
    ∃ ms, Marked c ms ks ∧ MarksOf c.ownsErrors c.rules.value? ms := by
  unfold Pass.single at declared
  cases rules : c.rules with
  | none =>
      simp only [rules] at declared
      cases declared
      exact ⟨[], .nil c, [], .nil, fun _ member => absurd member List.not_mem_nil, fun _ => rfl⟩
  | message m =>
      simp only [rules] at declared
      cases declared
      obtain ⟨ms, marked, missing, borrowed⟩ := required_marked c (m <|> c.messageRules)
      exact ⟨ms, marked, ms, .refl ms, fun k member => by rw [missing k member]; rfl, borrowed⟩
  | typed t =>
      simp only [rules] at declared
      cases t with
      | value v =>
          exact ⟨_, (valueConstants_declares declared).marks,
            exists_errors c.ownsErrors (entries v)⟩
      | repeated rules => cases declared
      | map rules => cases declared
  | wrapper v =>
      simp only [rules] at declared
      obtain ⟨ls, inside, same⟩ := bind_eq_ok_iff.mp declared
      cases same
      rw [Pass.inner_eq rules] at inside
      have inside : valueConstants schema c v = .ok ls := inside
      obtain ⟨ms, marked, missing, borrowed⟩ := required_marked c c.messageRules
      obtain ⟨errors, perm, areErrors, none⟩ := exists_errors c.ownsErrors (entries v)
      have marks := (valueConstants_declares inside).marks
      refine ⟨_, marked.append marks fun m first second => ?_, ms ++ errors, ?_, ?_, ?_⟩
      · rw [missing m first] at second
        exact required_notMem_entryMarks second
      · exact (perm.append_left ms).trans (List.perm_append_comm_assoc ms _ errors)
      · refine List.forall_mem_append.mpr ⟨fun m member => ?_, areErrors⟩
        rw [missing m member]
        rfl
      · intro borrows
        rw [borrowed borrows, none borrows, List.append_nil]

theorem single_refers {rules : FieldRules} (checked : c.Checked schema rules)
    (declared : (constantsPass schema).single c = .ok ks)
    (written : (statementsPass schema).single c = .ok ss) :
    Refers ss (ruleNames ks) (Known c ks) := by
  unfold Pass.single at declared written
  cases rules : c.rules with
  | none =>
      simp only [rules] at declared written
      cases declared
      cases written
      exact .nil
  | message m =>
      simp only [rules] at declared written
      have own : m = c.messageRules := checked.message_eq rules
      subst own
      have same : (c.messageRules <|> c.messageRules) = c.messageRules := by
        cases c.messageRules <;> rfl
      have declared : Constant.required c (c.messageRules <|> c.messageRules) = ks :=
        Except.ok.inj declared
      rw [same] at declared
      subst declared
      exact message_refers same checked.acceptsMissing written
  | typed t =>
      simp only [rules] at declared written
      cases t with
      | value v => exact value_refers (checked.accepts (.inl rules)) declared written
      | repeated rules => cases declared
      | map rules => cases declared
  | wrapper v =>
      simp only [rules] at declared written
      obtain ⟨ls, inside, same⟩ := bind_eq_ok_iff.mp declared
      cases same
      obtain ⟨body, reached, _⟩ := bind_eq_ok_iff.mp written
      have accepts := checked.accepts (.inr rules)
      refine wrapper_refers checked.acceptsMissing ?_ reached written
      rw [Pass.inner_eq rules] at inside reached
      -- The scalar inside has the names and the errors of the position itself.
      let scalar : Context :=
        { c with rules := .typed (.value v), accessor := some (accessor c ++ ".getValue()") }
      have refers : Refers body (ruleNames ls) (Known scalar ls) :=
        value_refers ⟨accepts.raises, accepts.literals⟩ inside reached
      exact refers

def Typed (schema : Schema) (c : Context) (v : ValueRules) : Prop :=
  ∀ rules, v = .enum rules → ∃ type, enumClass schema c = .ok type

theorem valueConstants_isOk_iff :
    (∃ ks, valueConstants schema c v = .ok ks) ↔ Typed schema c v := by
  constructor
  · rintro ⟨ks, declared⟩ rules rfl
    obtain ⟨type, found, _⟩ := bind_eq_ok_iff.mp declared
    exact ⟨type, found⟩
  · intro typed
    cases v with
    | enum rules =>
        obtain ⟨type, found⟩ := typed rules rfl
        exact ⟨_, bind_eq_ok_iff.mpr ⟨type, found, rfl⟩⟩
    | _ => exact ⟨_, rfl⟩

private theorem typed_of_valueStatements (written : valueStatements schema c v = .ok ss) :
    Typed schema c v := by
  rintro rules rfl
  obtain ⟨type, found, _⟩ := bind_eq_ok_iff.mp written
  exact ⟨type, found⟩

private theorem valueStatements_isOk (accepts : c.Accepts v) (typed : Typed schema c v) :
    ∃ ss, valueStatements schema c v = .ok ss := by
  refine (valueStatements_faultsWithin accepts fun rules same => ?_).isOk
  obtain ⟨type, found⟩ := typed rules same
  exact .of_eq_ok found

def TypedAt (schema : Schema) (c : Context) : Prop :=
  ∀ v, (c.rules = .typed (.value v) ∨ c.rules = .wrapper v) → Typed schema c v

private theorem typedAt_iff_typed (rules : c.rules = .typed (.value v) ∨ c.rules = .wrapper v) :
    TypedAt schema c ↔ Typed schema c v := by
  refine ⟨fun typed => typed v rules, fun typed other written => ?_⟩
  have same : v = other := by grind
  rw [← same]
  exact typed

private theorem typedAt_of_plain (untyped : ∀ t, c.rules ≠ .typed t)
    (bare : ∀ v, c.rules ≠ .wrapper v) :
    TypedAt schema c :=
  fun v written => written.elim (absurd · (untyped _)) (absurd · (bare v))

theorem singleConstants_isOk_iff (values : ∀ t, c.rules = .typed t → ∃ v, t = .value v) :
    (∃ ks, (constantsPass schema).single c = .ok ks) ↔ TypedAt schema c := by
  unfold Pass.single
  cases rules : c.rules with
  | none =>
      exact iff_of_true ⟨[], rfl⟩ (typedAt_of_plain (by simp [rules]) (by simp [rules]))
  | message m =>
      exact iff_of_true ⟨_, rfl⟩ (typedAt_of_plain (by simp [rules]) (by simp [rules]))
  | typed t =>
      obtain ⟨v, rfl⟩ := values t rules
      rw [typedAt_iff_typed (.inl rules)]
      exact valueConstants_isOk_iff
  | wrapper v =>
      rw [typedAt_iff_typed (.inr rules)]
      refine Iff.trans ⟨?_, ?_⟩ (valueConstants_isOk_iff (c := c))
      · rintro ⟨ks, written⟩
        obtain ⟨inside, reached, _⟩ := bind_eq_ok_iff.mp written
        rw [Pass.inner_eq rules] at reached
        exact ⟨inside, reached⟩
      · rintro ⟨inside, reached⟩
        refine ⟨_, bind_eq_ok_iff.mpr ⟨inside, ?_, rfl⟩⟩
        rw [Pass.inner_eq rules]
        exact reached

theorem singleStatements_isOk_iff {declaredRules : FieldRules}
    (checked : c.Checked schema declaredRules)
    (values : ∀ t, c.rules = .typed t → ∃ v, t = .value v) :
    (∃ ss, (statementsPass schema).single c = .ok ss) ↔ TypedAt schema c := by
  unfold Pass.single
  cases rules : c.rules with
  | none =>
      exact iff_of_true ⟨[], rfl⟩ (typedAt_of_plain (by simp [rules]) (by simp [rules]))
  | message m =>
      refine iff_of_true (messageStatements_faultsWithin ?_).isOk
        (typedAt_of_plain (by simp [rules]) (by simp [rules]))
      rw [checked.message_eq rules]
      have acceptsMissing := checked.acceptsMissing
      cases own : c.messageRules <;> simpa [own] using acceptsMissing
  | typed t =>
      obtain ⟨v, rfl⟩ := values t rules
      rw [typedAt_iff_typed (.inl rules)]
      refine ⟨?_, valueStatements_isOk (checked.accepts (.inl rules))⟩
      rintro ⟨ss, written⟩
      exact typed_of_valueStatements written
  | wrapper v =>
      have accepts := checked.accepts (.inr rules)
      rw [typedAt_iff_typed (.inr rules)]
      constructor
      · rintro ⟨ss, written⟩
        obtain ⟨body, reached, _⟩ := bind_eq_ok_iff.mp written
        rw [Pass.inner_eq rules] at reached
        have typed := typed_of_valueStatements reached
        exact typed
      · intro typed
        refine (wrapperStatements_faultsWithin checked.acceptsMissing fun accessor => ?_).isOk
        rw [Pass.inner_eq rules]
        let inside : Context := { c with rules := .typed (.value v), accessor := some accessor }
        have accepts : inside.Accepts v := ⟨accepts.raises, accepts.literals⟩
        have typed : Typed schema inside v := typed
        obtain ⟨body, written⟩ := valueStatements_isOk accepts typed
        exact .of_eq_ok written

end ProtoRules.Java
