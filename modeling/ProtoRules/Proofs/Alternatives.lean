import ProtoRules.Check.Checker
import ProtoRules.Proofs.Bounds
import ProtoRules.Proofs.Literals

/-!
Acceptance of alternatives. A list of alternatives is accepted if each of them passes the tests that
look at it alone and the names that all of them declare may be declared together; rules on ordered
values must also have bounds that fit each other over the whole list.
-/

namespace ProtoRules

section Run

variable {σ α β : Type} {t : Exclusions} {names : α → List String} {Valid : α → Prop}

theorem foldlM_follows_iff {check : σ → α → Except CheckError σ} {seen : σ → List String}
    {advance : σ → α → σ} (grows : ∀ s r, seen (advance s r) = seen s ++ names r)
    (step : ∀ s r result, check s r = .ok result ↔
      Valid r ∧ t.Follows (seen s) (names r) ∧ result = advance s r)
    {rules : List α} {s result : σ} :
    rules.foldlM check s = .ok result ↔
      (∀ r ∈ rules, Valid r) ∧ t.Follows (seen s) (rules.flatMap names) ∧
        result = rules.foldl advance s := by
  induction rules generalizing s with
  | nil =>
      rw [List.foldlM_nil, pure_eq_ok_iff]
      simpa [eq_comm] using fun _ => ⟨List.Pairwise.nil, by simp⟩
  | cons r rules ih =>
      rw [List.foldlM_cons, bind_eq_ok_iff]
      simp only [step, ih, List.forall_mem_cons, List.flatMap_cons, List.foldl_cons,
        Exclusions.follows_append_iff]
      constructor
      · rintro ⟨_, ⟨valid, follows, rfl⟩, rest, later, rfl⟩
        exact ⟨⟨valid, rest⟩, ⟨follows, grows s r ▸ later⟩, rfl⟩
      · rintro ⟨⟨valid, rest⟩, ⟨follows, later⟩, rfl⟩
        exact ⟨advance s r, ⟨valid, follows, rfl⟩, rest, (grows s r).symm ▸ later, rfl⟩

theorem checkAlternatives_eq_ok_iff {check : List String → α → Except CheckError (List String)}
    (step : ∀ seen r result, check seen r = .ok result ↔
      Valid r ∧ t.declareAll seen (names r) = .ok result) {rules : List α} :
    checkAlternatives rules check = .ok () ↔
      (∀ r ∈ rules, Valid r) ∧ t.Admits (rules.flatMap names) := by
  have oneStep : ∀ seen r result, check seen r = .ok result ↔
      Valid r ∧ t.Follows (id seen) (names r) ∧ result = seen ++ names r := by
    intro seen r result
    rw [step, Exclusions.declareAll_eq_ok_iff, id]
  have run : ∀ result, rules.foldlM check [] = .ok result ↔
      (∀ r ∈ rules, Valid r) ∧ t.Follows [] (rules.flatMap names) ∧
        result = rules.foldl (fun seen r => seen ++ names r) [] :=
    fun _ => foldlM_follows_iff (fun _ _ => rfl) oneStep
  simp only [checkAlternatives, discard_eq_ok_iff, run, Exclusions.follows_nil_iff, exists_and_left,
    exists_eq, and_true]

theorem Tally.add_eq_ok_iff {tally result : Tally β} {rules : List String} {b : Bounds β} :
    tally.add t rules b = .ok result ↔
      t.Follows tally.seen rules ∧ result = ⟨tally.seen ++ rules, tally.bounds.merge b⟩ := by
  simp only [Tally.add, bind_eq_ok_iff, Conflict.lift_eq_ok_iff, Exclusions.declareAll_eq_ok_iff,
    pure_eq_ok_iff]
  constructor
  · rintro ⟨_, ⟨follows, rfl⟩, rfl⟩
    exact ⟨follows, rfl⟩
  · rintro ⟨follows, rfl⟩
    exact ⟨_, ⟨follows, rfl⟩, rfl⟩

theorem tally_eq_ok_iff [Numeral β] {bounds : α → Bounds β}
    {check : Tally β → α → Except CheckError (Tally β)}
    (step : ∀ tally r result, check tally r = .ok result ↔
      Valid r ∧ tally.add t (names r) (bounds r) = .ok result) {rules : List α} :
    (rules.foldlM check {} >>= fun tally => Conflict.lift (checkNums 0 0 tally.bounds)) = .ok () ↔
      (∀ r ∈ rules, Valid r) ∧ t.Admits (rules.flatMap names) ∧
        checkNums 0 0 (Bounds.mergeAll (rules.map bounds)) = .ok () := by
  let advance (tally : Tally β) (r : α) : Tally β :=
    ⟨tally.seen ++ names r, tally.bounds.merge (bounds r)⟩
  have merged : (rules.foldl advance {}).bounds = Bounds.mergeAll (rules.map bounds) := by
    rw [Bounds.mergeAll, List.foldl_map]
    exact (List.foldl_hom Tally.bounds fun _ _ => rfl).symm
  have oneStep : ∀ tally r result, check tally r = .ok result ↔
      Valid r ∧ t.Follows (Tally.seen tally) (names r) ∧ result = advance tally r := by
    intro tally r result
    rw [step, Tally.add_eq_ok_iff]
  have run : ∀ result, rules.foldlM check {} = .ok result ↔
      (∀ r ∈ rules, Valid r) ∧ t.Follows [] (rules.flatMap names) ∧
        result = rules.foldl advance {} :=
    fun _ => foldlM_follows_iff (fun _ _ => rfl) oneStep
  simp only [bind_eq_ok_iff, run, Exclusions.follows_nil_iff, Conflict.lift_eq_ok_iff]
  constructor
  · rintro ⟨_, ⟨valid, admitted, rfl⟩, lastPassed⟩
    exact ⟨valid, admitted, merged ▸ lastPassed⟩
  · rintro ⟨valid, admitted, lastPassed⟩
    exact ⟨_, ⟨valid, admitted, rfl⟩, merged.symm ▸ lastPassed⟩

end Run

variable {inject : Bool}

theorem checkError_eq_ok_iff {error : Option ErrorSpec} {kind : String} :
    checkError error inject kind = .ok () ↔
      (∃ e, error = some e ∧ Text.isBlankText e.method = false) ∨
        (error = none ∧ inject = true) := by
  cases error <;> simp [checkError]

theorem checkString_eq_ok_iff {rules : List StringRule} :
    checkString inject rules = .ok () ↔
      (∀ r ∈ rules, checkError r.error inject RuleKind.string.keyword = .ok () ∧
        r.checkKnownPattern = .ok () ∧ r.checkValues = .ok ()) ∧
      stringExclusions.Admits (rules.flatMap StringRule.declared) := by
  apply checkAlternatives_eq_ok_iff
  intro seen r result
  simp only [bind_eq_ok_iff, exists_unit_iff, Conflict.lift_eq_ok_iff, pure_eq_ok_iff]
  constructor
  · rintro ⟨answered, known, _, declared, values, rfl⟩
    exact ⟨⟨answered, known, values⟩, declared⟩
  · rintro ⟨⟨answered, known, values⟩, declared⟩
    exact ⟨answered, known, result, declared, values, rfl⟩

theorem checkBytes_eq_ok_iff {rules : List BytesRule} :
    checkBytes inject rules = .ok () ↔
      (∀ r ∈ rules, checkError r.error inject RuleKind.bytes.keyword = .ok () ∧
        r.checkValues = .ok ()) ∧
      bytesExclusions.Admits (rules.flatMap BytesRule.declared) := by
  apply checkAlternatives_eq_ok_iff
  intro seen r result
  simp only [bind_eq_ok_iff, exists_unit_iff, Conflict.lift_eq_ok_iff, pure_eq_ok_iff]
  constructor
  · rintro ⟨answered, _, declared, values, rfl⟩
    exact ⟨⟨answered, values⟩, declared⟩
  · rintro ⟨⟨answered, values⟩, declared⟩
    exact ⟨answered, result, declared, values, rfl⟩

theorem checkEnum_eq_ok_iff {schema : Schema} {enumName : String} {rules : List EnumRule} :
    checkEnum schema enumName inject rules = .ok () ↔
      (∀ r ∈ rules, checkError r.error inject RuleKind.enum.keyword = .ok () ∧
        checkSets r.allowed.length r.denied.length = .ok () ∧
        r.checkDefined schema enumName = .ok ()) ∧
      Exclusions.Admits ⟨["const"], setExclusions⟩ (rules.flatMap EnumRule.declared) := by
  apply checkAlternatives_eq_ok_iff
  intro seen r result
  simp only [bind_eq_ok_iff, exists_unit_iff, Conflict.lift_eq_ok_iff, pure_eq_ok_iff]
  constructor
  · rintro ⟨answered, _, declared, sets, defined, rfl⟩
    exact ⟨⟨answered, sets, defined⟩, declared⟩
  · rintro ⟨⟨answered, sets, defined⟩, declared⟩
    exact ⟨answered, result, declared, sets, defined, rfl⟩

theorem checkAny_eq_ok_iff {rules : List AnyRule} :
    checkAny inject rules = .ok () ↔
      (∀ r ∈ rules, checkError r.error inject RuleKind.any.keyword = .ok () ∧
        checkSets r.allowed.length r.denied.length = .ok ()) ∧
      Exclusions.Admits ⟨[], setExclusions⟩ (rules.flatMap AnyRule.declared) := by
  apply checkAlternatives_eq_ok_iff
  intro seen r result
  simp only [bind_eq_ok_iff, exists_unit_iff, Conflict.lift_eq_ok_iff, pure_eq_ok_iff]
  constructor
  · rintro ⟨answered, _, declared, sets, rfl⟩
    exact ⟨⟨answered, sets⟩, declared⟩
  · rintro ⟨⟨answered, sets⟩, declared⟩
    exact ⟨answered, result, declared, sets, rfl⟩

theorem checkNumeric_eq_ok_iff {α : Type} [Numeral α] {kind : String}
    {rules : List (NumericRule α)} :
    checkNumeric kind inject rules = .ok () ↔
      (∀ r ∈ rules, checkError r.error inject kind = .ok () ∧
        checkNums r.allowed.length r.denied.length r.bounds = .ok ()) ∧
      comparisonExclusions.Admits (rules.flatMap NumericRule.declared) ∧
        checkNums 0 0 (Bounds.mergeAll (rules.map NumericRule.bounds)) = .ok () := by
  apply tally_eq_ok_iff
  intro tally r result
  simp only [bind_eq_ok_iff, exists_unit_iff, Conflict.lift_eq_ok_iff, and_assoc]

def DurationRule.nanoseconds (r : DurationRule) : Bounds Int :=
  r.bounds.map DurationLiteral.nanoseconds

def DurationRule.literals (r : DurationRule) : List DurationLiteral :=
  r.bounds.values ++ r.allowed ++ r.denied

theorem checkDuration_eq_ok_iff {rules : List DurationRule} :
    checkDuration inject rules = .ok () ↔
      (∀ r ∈ rules, checkError r.error inject RuleKind.duration.keyword = .ok () ∧
        (∀ d ∈ r.literals, d.Valid) ∧
        checkNums r.allowed.length r.denied.length r.nanoseconds = .ok ()) ∧
      comparisonExclusions.Admits (rules.flatMap DurationRule.declared) ∧
        checkNums 0 0 (Bounds.mergeAll (rules.map DurationRule.nanoseconds)) = .ok () := by
  apply tally_eq_ok_iff
  intro tally r result
  have literals : (∀ d ∈ r.literals, d.Valid) ↔ (∀ d ∈ r.bounds.values, d.Valid) ∧
      (∀ d ∈ r.allowed, d.Valid) ∧ ∀ d ∈ r.denied, d.Valid := by
    simp only [DurationRule.literals, List.forall_mem_append, and_assoc]
  have listed : ∀ name (ds : List DurationLiteral),
      ds.forM (fun d => discard (d.check name)) = .ok () ↔ ∀ d ∈ ds, d.Valid := by
    intro name ds
    simp only [forM_eq_ok_iff, discard_eq_ok_iff, DurationLiteral.check_eq_ok_iff,
      exists_and_left, exists_eq, and_true]
  simp only [bind_eq_ok_iff, exists_unit_iff, Conflict.lift_eq_ok_iff, listed, literals,
    DurationLiteral.mapM_check_eq_ok_iff]
  constructor
  · rintro ⟨answered, _, ⟨bounds, rfl⟩, allowed, denied, nums, added⟩
    exact ⟨⟨answered, ⟨bounds, allowed, denied⟩, nums⟩, added⟩
  · rintro ⟨⟨answered, ⟨bounds, allowed, denied⟩, nums⟩, added⟩
    exact ⟨answered, _, ⟨bounds, rfl⟩, allowed, denied, nums, added⟩

def TimestampRule.nanoseconds (r : TimestampRule) : Bounds Int :=
  r.bounds.map TimestampLiteral.nanoseconds

theorem checkWithin_eq_ok_iff {within : Option DurationLiteral} :
    checkWithin within = .ok () ↔ ∀ d ∈ within, d.Valid ∧ 0 < d.nanoseconds := by
  cases within with
  | none => simp [checkWithin]
  | some d =>
      simp only [checkWithin, bind_eq_ok_iff, DurationLiteral.check_eq_ok_iff,
        Verdict.require_eq_ok_iff, decide_eq_true_eq, Option.mem_some, forall_eq']
      constructor
      · rintro ⟨_, ⟨valid, rfl⟩, positive⟩
        exact ⟨valid, positive⟩
      · rintro ⟨valid, positive⟩
        exact ⟨_, ⟨valid, rfl⟩, positive⟩

theorem checkTimestamp_eq_ok_iff {rules : List TimestampRule} :
    checkTimestamp inject rules = .ok () ↔
      (∀ r ∈ rules, checkError r.error inject RuleKind.timestamp.keyword = .ok () ∧
        (∀ t ∈ r.bounds.values, t.Valid) ∧ (∀ d ∈ r.within, d.Valid ∧ 0 < d.nanoseconds) ∧
        checkNums 0 0 r.nanoseconds = .ok ()) ∧
      timestampExclusions.Admits (rules.flatMap TimestampRule.declared) ∧
        checkNums 0 0 (Bounds.mergeAll (rules.map TimestampRule.nanoseconds)) = .ok () := by
  apply tally_eq_ok_iff
  intro tally r result
  simp only [bind_eq_ok_iff, exists_unit_iff, Conflict.lift_eq_ok_iff, checkWithin_eq_ok_iff,
    TimestampLiteral.mapM_check_eq_ok_iff]
  constructor
  · rintro ⟨answered, _, ⟨bounds, rfl⟩, within, nums, added⟩
    exact ⟨⟨answered, bounds, within, nums⟩, added⟩
  · rintro ⟨⟨answered, bounds, within, nums⟩, added⟩
    exact ⟨answered, _, ⟨bounds, rfl⟩, within, nums, added⟩

theorem checkRepeated_eq_ok_iff {schema : Schema} {element : ElementType}
    {rules : List (RepeatedRule FieldRules)} :
    checkRepeated schema element inject rules = .ok () ↔
      (∀ r ∈ rules, checkError r.error inject RuleKind.repeated.keyword = .ok () ∧
        checkMinMax r.minItems r.maxItems "min_items" "max_items" = .ok () ∧
        (r.unique = true → element.isEmbedded = false) ∧
        checkNested schema "items" element r.items = .ok ()) ∧
      Exclusions.Admits ⟨[], []⟩ (rules.flatMap RepeatedRule.declared) := by
  apply checkAlternatives_eq_ok_iff
  intro seen r result
  simp only [bind_eq_ok_iff, exists_unit_iff, ite_bind_eq_ok_iff, Conflict.lift_eq_ok_iff,
    pure_eq_ok_iff, Verdict.require_eq_ok_iff, Bool.not_eq_true']
  constructor
  · rintro ⟨answered, _, declared, sizes, unique, nested, rfl⟩
    exact ⟨⟨answered, sizes, unique, nested⟩, declared⟩
  · rintro ⟨⟨answered, sizes, unique, nested⟩, declared⟩
    exact ⟨answered, result, declared, sizes, unique, nested, rfl⟩

theorem checkMap_eq_ok_iff {schema : Schema} {key value : ElementType}
    {rules : List (MapRule FieldRules)} :
    checkMap schema key value inject rules = .ok () ↔
      (∀ r ∈ rules, checkError r.error inject RuleKind.map.keyword = .ok () ∧
        checkMinMax r.minPairs r.maxPairs "min_pairs" "max_pairs" = .ok () ∧
        (r.noSparse = true → value.isEmbedded = true) ∧
        checkNested schema "keys" key r.keys = .ok () ∧
        checkNested schema "values" value r.values = .ok ()) ∧
      Exclusions.Admits ⟨[], []⟩ (rules.flatMap MapRule.declared) := by
  apply checkAlternatives_eq_ok_iff
  intro seen r result
  simp only [bind_eq_ok_iff, exists_unit_iff, ite_bind_eq_ok_iff, Conflict.lift_eq_ok_iff,
    pure_eq_ok_iff, Verdict.require_eq_ok_iff]
  constructor
  · rintro ⟨answered, _, declared, sizes, sparse, keys, values, rfl⟩
    exact ⟨⟨answered, sizes, sparse, keys, values⟩, declared⟩
  · rintro ⟨⟨answered, sizes, sparse, keys, values⟩, declared⟩
    exact ⟨answered, result, declared, sizes, sparse, keys, values, rfl⟩

end ProtoRules
