import ProtoRules.Proofs.BracketedConstants

/-!
Brackets of checks. Every rule of a field becomes a call whose method is plain and whose operands
leave no bracket open; so do the conditions around the calls, and the loops over keys and elements.
-/

namespace ProtoRules.Java

structure Call.Tidy (k : Call) : Prop where
  method : Plain k.method
  operands : ∀ o ∈ k.operands, Balanced o.text

namespace Call

variable {α : Type} {method : String} {name : String → String}

private theorem tidy_optional (called : Plain method) {operand : α → Operand}
    (each : ∀ a, Balanced (operand a).text) (value : Option α) :
    ∀ k ∈ optional method value operand, k.Tidy :=
  forall_mem_toList_map (fun a => ⟨called, List.forall_mem_singleton.mpr (each a)⟩) value

private theorem tidy_named (called : Plain method) {label : String} (plain : Plain label)
    (value : Option α) : ∀ k ∈ named method value label, k.Tidy := by
  have handed : ∀ _ : α, Balanced (Operand.constant label).text := fun _ => plain.balanced
  exact tidy_optional called handed value

private theorem tidy_ofFlag (called : Plain method) (flag : Bool) :
    ∀ k ∈ ofFlag method flag, k.Tidy := by
  unfold ofFlag
  split
  · exact List.forall_mem_singleton.mpr ⟨called, fun o member => absurd member List.not_mem_nil⟩
  · exact fun k member => absurd member List.not_mem_nil

private theorem tidy_count (called : Plain method) (n : Option Length) :
    ∀ k ∈ count method n, k.Tidy := by
  have handed : ∀ n : Length, Balanced (Operand.code n.text).text := fun n =>
    (plain_word n).balanced
  exact tidy_optional called handed n

private theorem tidy_quotedText (called : Plain method) (value : Option String) :
    ∀ k ∈ quotedText method value, k.Tidy := by
  have handed : ∀ s, Balanced (Operand.code (string s)).text := balanced_string
  exact tidy_optional called handed value

private theorem balanced_currentTime : Balanced currentTime.text := by decide

variable (plain : ∀ rule, Plain rule → Plain (name rule))
include plain

private theorem tidy_const (value : Option α) : ∀ k ∈ const name value, k.Tidy :=
  tidy_named (by decide) (plain _ (by decide)) value

theorem tidy_sets (allowed denied : List α) : ∀ k ∈ sets name allowed denied, k.Tidy := by
  have one {method label : String} (called : Plain method) (labelled : Plain label)
      (values : List α) : ∀ k ∈ if values.isEmpty then []
        else [(⟨method, [.constant (name label)]⟩ : Call)], k.Tidy := by
    split
    · exact fun k member => absurd member List.not_mem_nil
    · have handed := (plain label labelled).balanced
      exact List.forall_mem_singleton.mpr ⟨called, List.forall_mem_singleton.mpr handed⟩
  refine List.forall_mem_append.mpr ⟨?_, ?_⟩
  · exact one (by decide) (by decide) allowed
  · exact one (by decide) (by decide) denied

theorem tidy_bounds {comparator : String} (ordered : Balanced comparator) (b : Bounds α) :
    ∀ k ∈ bounds name comparator b, k.Tidy := by
  have held (rule : String) (labelled : Plain rule) (value : Option α) :
      ∀ o ∈ value.map fun _ => Operand.constant (name rule), Balanced o.text := by
    intro o given
    obtain ⟨_, _, rfl⟩ := Option.map_eq_some_iff.mp given
    exact (plain rule labelled).balanced
  have lt := held "Lt" (by decide) b.lt
  have lte := held "Lte" (by decide) b.lte
  have gt := held "Gt" (by decide) b.gt
  have gte := held "Gte" (by decide) b.gte
  unfold bounds
  dsimp only
  split
  · have orNull {operand : Option Operand} (each : ∀ o ∈ operand, Balanced o.text) :
        Balanced (operand.getD nullOperand).text := by
      cases operand with
      | none => exact (by decide : Balanced nullOperand.text)
      | some o => exact each o rfl
    have called : Plain "ComparativeValidation.range" := by decide
    refine List.forall_mem_singleton.mpr ⟨called, ?_⟩
    refine List.forall_mem_append.mpr ⟨?_, List.forall_mem_singleton.mpr ordered⟩
    refine List.forall_mem_map.mpr ?_
    simp only [List.forall_mem_cons]
    exact ⟨orNull lt, orNull lte, orNull gt, orNull gte, List.forall_mem_nil _⟩
  · have one {method : String} (called : Plain method) {operand : Option Operand}
        (each : ∀ o ∈ operand, Balanced o.text) :
        ∀ k ∈ (operand.map fun o => (⟨method, [o, .code comparator]⟩ : Call)).toList, k.Tidy := by
      intro k member
      obtain ⟨o, given, rfl⟩ := Option.map_eq_some_iff.mp (Option.mem_toList.mp member)
      refine ⟨called, List.forall_mem_cons.mpr ⟨each o given, ?_⟩⟩
      exact List.forall_mem_singleton.mpr ordered
    refine List.forall_mem_flatMap.mpr ?_
    simp only [List.forall_mem_cons]
    exact ⟨one (by decide) lt, one (by decide) lte, one (by decide) gt, one (by decide) gte,
      List.forall_mem_nil _⟩

private theorem tidy_ordered {comparator : String} (ordered : Balanced comparator) (b : Bounds α) :
    ∀ k ∈ const name b.const ++ bounds name comparator b, k.Tidy :=
  List.forall_mem_append.mpr ⟨tidy_const plain _, tidy_bounds plain ordered b⟩

private theorem tidy_ofNumeric (r : NumericRule α) : ∀ k ∈ ofNumeric name r, k.Tidy :=
  List.forall_mem_append.mpr ⟨tidy_ordered plain (by decide) _, tidy_sets plain _ _⟩

private theorem tidy_ofDuration (r : DurationRule) : ∀ k ∈ ofDuration name r, k.Tidy :=
  List.forall_mem_append.mpr ⟨tidy_ordered plain (by decide) _, tidy_sets plain _ _⟩

private theorem tidy_ofString (r : StringRule) : ∀ k ∈ ofString name r, k.Tidy := by
  unfold ofString
  simp only [List.forall_mem_append, and_assoc]
  refine ⟨tidy_quotedText (by decide) _, tidy_sets plain _ _, tidy_count (by decide) _,
    tidy_count (by decide) _, tidy_count (by decide) _, tidy_count (by decide) _,
    tidy_count (by decide) _, tidy_count (by decide) _,
    tidy_named (by decide) (plain _ (by decide)) _, tidy_quotedText (by decide) _,
    tidy_quotedText (by decide) _, tidy_quotedText (by decide) _,
    tidy_quotedText (by decide) _, ?_⟩
  intro k member
  obtain ⟨method, chosen, rfl⟩ := Option.map_eq_some_iff.mp (Option.mem_toList.mp member)
  obtain ⟨format, _, known⟩ := Option.bind_eq_some_iff.mp chosen
  have called : Plain method := by
    cases format <;> cases known <;> decide
  exact ⟨Plain.append (by decide) called, fun o member => absurd member List.not_mem_nil⟩

private theorem tidy_ofBytes (r : BytesRule) : ∀ k ∈ ofBytes name r, k.Tidy := by
  have format (f : BytesFormat) : (⟨bytesFormatMethod f, []⟩ : Call).Tidy := by
    refine ⟨?_, fun o member => absurd member List.not_mem_nil⟩
    cases f <;> decide
  unfold ofBytes
  simp only [List.forall_mem_append, and_assoc]
  exact ⟨tidy_const plain _, tidy_count (by decide) _, tidy_count (by decide) _,
    tidy_count (by decide) _, tidy_named (by decide) (plain _ (by decide)) _,
    tidy_named (by decide) (plain _ (by decide)) _, tidy_named (by decide) (plain _ (by decide)) _,
    tidy_named (by decide) (plain _ (by decide)) _, forall_mem_toList_map format _,
    tidy_sets plain _ _⟩

private theorem tidy_ofEnum {type : String} (typed : Plain type) (r : EnumRule) :
    ∀ k ∈ ofEnum type name r, k.Tidy := by
  have handed : ∀ n : Word .int32,
      Balanced (Operand.code (type ++ ".forNumber(" ++ n.text ++ ")")).text :=
    balanced_enumMember typed
  have called : Plain "ConstantValidation.constant" := by decide
  refine List.forall_mem_append.mpr ⟨?_, tidy_sets plain _ _⟩
  exact List.forall_mem_append.mpr ⟨tidy_optional called handed r.const, tidy_ofFlag (by decide) _⟩

private theorem tidy_ofTimestamp (r : TimestampRule) : ∀ k ∈ ofTimestamp name r, k.Tidy := by
  have now {method : String} (called : Plain method) (flag : Bool) :
      ∀ k ∈ if flag then [(⟨method, [currentTime, .code timestampOrder]⟩ : Call)] else [],
        k.Tidy := by
    split
    · refine List.forall_mem_singleton.mpr ⟨called, List.forall_mem_cons.mpr ⟨?_, ?_⟩⟩
      · exact balanced_currentTime
      · exact List.forall_mem_singleton.mpr (by decide : Balanced timestampOrder)
    · exact fun k member => absurd member List.not_mem_nil
  have within : (⟨"TimestampValidation.within",
      [.constant (name "Within"), currentTime]⟩ : Call).Tidy := by
    have called : Plain "TimestampValidation.within" := by decide
    refine ⟨called, List.forall_mem_cons.mpr ⟨?_, ?_⟩⟩
    · exact (plain "Within" (by decide)).balanced
    · exact List.forall_mem_singleton.mpr balanced_currentTime
  refine List.forall_mem_append.mpr ⟨?_, forall_mem_toList_map (fun _ => within) _⟩
  refine List.forall_mem_append.mpr ⟨?_, now (by decide) _⟩
  exact List.forall_mem_append.mpr ⟨tidy_ordered plain (by decide) _, now (by decide) _⟩

omit plain

private theorem tidy_ofRepeated {ρ : Type} (r : RepeatedRule ρ) : ∀ k ∈ ofRepeated r, k.Tidy := by
  refine List.forall_mem_append.mpr ⟨?_, tidy_ofFlag (by decide) _⟩
  exact List.forall_mem_append.mpr ⟨tidy_count (by decide) _, tidy_count (by decide) _⟩

private theorem tidy_ofMap {ρ : Type} (r : MapRule ρ) : ∀ k ∈ ofMap r, k.Tidy := by
  refine List.forall_mem_append.mpr ⟨?_, tidy_ofFlag (by decide) _⟩
  exact List.forall_mem_append.mpr ⟨tidy_count (by decide) _, tidy_count (by decide) _⟩

end Call

section Alternative

variable {c : Context} {alternative : Nat} {own : Option ErrorSpec}

private theorem balanced_errorOperand (tidy : c.Tidy) :
    Gives (fun o => Balanced o.text) (errorOperand c alternative own) := by
  unfold errorOperand
  split
  · exact .error _
  · exact .ok (plain_errorName tidy alternative).balanced

private theorem tidy_callStatements (tidy : c.Tidy) {condition : Option String} {subject : String}
    {calls : List Call} (guard : ∀ g ∈ condition, Balanced g) (target : Balanced subject)
    (each : ∀ k ∈ calls, k.Tidy) :
    GivesAll Statement.Tidy (callStatements c alternative own condition subject calls) := by
  refine .ite (fun _ => .nil) fun _ => .bind fun error selected => .ok ?_
  refine List.forall_mem_map.mpr fun k member => .call guard (each k member).method ?_
  refine List.forall_mem_cons.mpr ⟨balanced_errorOperand tidy error selected, ?_⟩
  exact List.forall_mem_cons.mpr ⟨target, (each k member).operands⟩

private theorem tidy_requiredStatement (tidy : c.Tidy) (isRequired : Bool) :
    GivesAll Statement.Tidy (requiredStatement c alternative own isRequired) := by
  refine .ite (fun _ => .bind fun error selected => .ok ?_) fun _ => .nil
  have raised := balanced_errorOperand tidy error selected
  exact List.forall_mem_singleton.mpr
    (.required (balanced_presence tidy) raised (balanced_accessor tidy))

private theorem balanced_missingOperand (tidy : c.Tidy) (rules : MessageRules) :
    Gives (fun o => Balanced o.text) (missingOperand c rules) := by
  unfold missingOperand
  split
  · exact .ok (plain_requiredName tidy).balanced
  · exact balanced_errorOperand tidy

private theorem gives_alternativeStatements {α : Type} {rules : List α}
    {statements : α → Nat → Rendered (List Statement)}
    (each : ∀ r i, GivesAll Statement.Tidy (statements r i)) :
    GivesAll Statement.Tidy (alternativeStatements rules statements) :=
  .concatM fun (r, i) _ => each r i

private theorem balanced_notEmpty (tidy : c.Tidy) : Balanced (notEmpty c) := by
  have front : Balanced "!" := by decide
  have back : Balanced ".isEmpty()" := by decide
  exact (front.append (balanced_accessor tidy)).append back

private theorem balanced_onlyIf {condition : String} (balanced : Balanced condition) (flag : Bool) :
    ∀ g ∈ onlyIf flag condition, Balanced g := by
  unfold onlyIf
  split
  · intro g same
    exact Option.some.inj same ▸ balanced
  · exact nofun

private theorem balanced_unguarded : ∀ g ∈ (none : Option String), Balanced g := nofun

/-- Calls that are made under a condition, if there is one. -/
private theorem tidy_guardedCalls (tidy : c.Tidy) {condition : Option String} {calls : List Call}
    (guard : ∀ g ∈ condition, Balanced g) (each : ∀ k ∈ calls, k.Tidy) :
    GivesAll Statement.Tidy (do
      let ss ← callStatements c alternative own none (accessor c) calls
      return Statement.guarded condition ss) := by
  refine .bind fun ss written => .ok (Statement.tidy_guarded guard ?_)
  exact tidy_callStatements tidy balanced_unguarded (balanced_accessor tidy) each ss written

/-- Calls that are made if a value is present, which it may be required to be. -/
private theorem tidy_presentCalls (tidy : c.Tidy) (isRequired : Bool) {subject : String}
    {calls : List Call} (target : Balanced subject) (each : ∀ k ∈ calls, k.Tidy) :
    GivesAll Statement.Tidy (do
      let required ← requiredStatement c alternative own isRequired
      let calls ← callStatements c alternative own (some (presence c)) subject calls
      return required ++ calls) := by
  have present : ∀ g ∈ some (presence c), Balanced g :=
    fun g same => Option.some.inj same ▸ balanced_presence tidy
  refine .bind fun required first => .bind fun calls second => .ok ?_
  refine List.forall_mem_append.mpr ⟨tidy_requiredStatement tidy isRequired required first, ?_⟩
  exact tidy_callStatements tidy present target each calls second

end Alternative

section Field

variable {c : Context}

private theorem tidy_valueStatements {files : List File} (names : ∀ file ∈ files, file.PlainNames)
    (tidy : c.Tidy) (v : ValueRules) :
    GivesAll Statement.Tidy (valueStatements (Schema.ofFiles files) c v) := by
  have plain (i : Nat) : ∀ rule, Plain rule → Plain (constantName c rule i) :=
    fun rule labelled => plain_constantName tidy labelled i
  have target := balanced_accessor tidy
  unfold valueStatements
  cases v with
  | any rules =>
      have url : Balanced ".getTypeUrl()" := by decide
      exact gives_alternativeStatements fun r i =>
        tidy_presentCalls tidy _ (target.append url) (Call.tidy_sets (plain i) _ _)
  | bool r =>
      refine tidy_callStatements tidy balanced_unguarded target
        (Call.tidy_optional (by decide) ?_ _)
      intro b
      cases b with
      | false => exact (by decide : Balanced "false")
      | true => exact (by decide : Balanced "true")
  | bytes rules =>
      have guard := balanced_notEmpty tidy
      exact gives_alternativeStatements fun r i =>
        tidy_guardedCalls tidy (balanced_onlyIf guard _) (Call.tidy_ofBytes (plain i) r)
  | duration rules =>
      exact gives_alternativeStatements fun r i =>
        tidy_presentCalls tidy _ target (Call.tidy_ofDuration (plain i) r)
  | enum rules =>
      refine .bind fun type found => gives_alternativeStatements fun r i => ?_
      have typed := plain_enumClass names found
      exact tidy_callStatements tidy balanced_unguarded target (Call.tidy_ofEnum (plain i) typed r)
  | numeric k rules =>
      have other : Balanced " != 0" := by decide
      have guard := target.append other
      exact gives_alternativeStatements fun r i =>
        tidy_guardedCalls tidy (balanced_onlyIf guard _) (Call.tidy_ofNumeric (plain i) r)
  | string rules =>
      have guard := balanced_notEmpty tidy
      exact gives_alternativeStatements fun r i =>
        tidy_guardedCalls tidy (balanced_onlyIf guard _) (Call.tidy_ofString (plain i) r)
  | timestamp rules =>
      exact gives_alternativeStatements fun r i =>
        tidy_presentCalls tidy _ target (Call.tidy_ofTimestamp (plain i) r)

private theorem tidy_messageStatements (tidy : c.Tidy) (rules : Option MessageRules) :
    GivesAll Statement.Tidy (messageStatements c rules) := by
  have noted {front : String} (plain : Plain front) :
      (Statement.note (front ++ c.field.name)).Tidy := .note (plain.append tidy.field)
  have presence := balanced_presence tidy
  have accessor := balanced_accessor tidy
  unfold messageStatements
  dsimp only
  generalize (rules <|> c.messageRules) = rules
  split
  · exact .ok (List.forall_mem_singleton.mpr (noted (by decide)))
  · have next (front : List Statement) (written : ∀ s ∈ front, s.Tidy) :
        ∀ s ∈ front ++ if c.shape.single?.any ElementType.isPlainMessage then
          [Statement.note ("Validate " ++ c.field.name),
            .delegate (Java.presence c) (Java.accessor c)] else [], s.Tidy := by
      refine List.forall_mem_append.mpr ⟨written, ?_⟩
      split
      · refine List.forall_mem_cons.mpr ⟨noted (by decide), ?_⟩
        exact List.forall_mem_singleton.mpr (.delegate presence accessor)
      · exact fun s member => absurd member List.not_mem_nil
    have unasked := next [] fun s member => absurd member List.not_mem_nil
    cases rules with
    | none => exact .ok unasked
    | some rules =>
        refine .ite (fun _ => .bind fun error selected => .ok (next _ ?_)) fun _ => .ok unasked
        have raised := balanced_missingOperand tidy rules error selected
        exact List.forall_mem_singleton.mpr (.required presence raised accessor)

private theorem tidy_wrapperStatements (tidy : c.Tidy) {inner : String → Rendered (List Statement)}
    (inside : ∀ accessor, Balanced accessor → GivesAll Statement.Tidy (inner accessor)) :
    GivesAll Statement.Tidy (wrapperStatements inner c) := by
  have presence := balanced_presence tidy
  have value : Balanced ".getValue()" := by decide
  refine .bind fun body written => ?_
  have body := inside _ ((balanced_accessor tidy).append value) body written
  split
  · rename_i rules _
    refine .bind fun error selected => .ok (List.forall_mem_singleton.mpr ?_)
    refine .unwrapped presence body fun other same => ?_
    exact Option.some.inj same ▸ balanced_missingOperand tidy rules error selected
  · refine .ok ?_
    split
    · exact fun s member => absurd member List.not_mem_nil
    · refine List.forall_mem_singleton.mpr (.unwrapped presence body fun error missing => ?_)
      cases missing

/-- What is written inside if there is a rule for it. -/
private theorem gives_inside {write : Context.Step → Rendered (List Statement)} {held : Prop}
    [Decidable held] {step : Context.Step} {β : Type} {Q : β → Prop}
    {next : List Statement → Rendered β} (tidy : step.Tidy)
    (inside : ∀ step : Context.Step, step.Tidy → GivesAll Statement.Tidy (write step))
    (rest : ∀ parts : List Statement, (∀ s ∈ parts, s.Tidy) → Gives Q (next parts)) :
    Gives Q (if held then write step >>= next else pure [] >>= next) := by
  refine .ite (fun _ => .bind fun parts written => ?_) fun _ => ?_
  · exact rest parts (inside step tidy parts written)
  · exact rest [] fun s member => absurd member List.not_mem_nil

private theorem tidy_repeatedStatements (tidy : c.Tidy)
    {elements : Context.Step → Rendered (List Statement)}
    (inside : ∀ step : Context.Step, step.Tidy → GivesAll Statement.Tidy (elements step))
    (rules : List (RepeatedRule FieldRules)) :
    GivesAll Statement.Tidy (repeatedStatements elements c rules) := by
  have accessor := balanced_accessor tidy
  have item (index : Option Nat) : Context.Step.Tidy ⟨"item", "", index⟩ :=
    ⟨(by decide : Balanced "item"), (by decide : Plain "")⟩
  have loop {ss : List Statement} (body : ∀ s ∈ ss, s.Tidy) :
      ∀ s ∈ Statement.forAll "RepeatedValidation.forEach" (Java.accessor c) "item" ss, s.Tidy :=
    Statement.tidy_forAll (by decide) accessor (by decide) body
  have declared : GivesAll Statement.Tidy (alternativeStatements rules fun r i => do
      let calls ← callStatements c i r.error none (Java.accessor c) (Call.ofRepeated r)
      let items ← if r.items.isSome then elements ⟨"item", "", some i⟩ else pure []
      return Statement.guarded (onlyIf r.ignoreEmpty (notEmpty c))
        (calls ++ Statement.forAll "RepeatedValidation.forEach" (Java.accessor c) "item"
          items)) := by
    refine gives_alternativeStatements fun r i => .bind fun calls written => ?_
    refine gives_inside (item _) inside fun items body => .ok ?_
    refine Statement.tidy_guarded (balanced_onlyIf (balanced_notEmpty tidy) _) ?_
    refine List.forall_mem_append.mpr ⟨?_, loop body⟩
    exact tidy_callStatements tidy balanced_unguarded accessor (Call.tidy_ofRepeated r) calls
      written
  refine .bind fun front written => gives_inside (item _) inside fun embedded body => .ok ?_
  exact List.forall_mem_append.mpr ⟨declared front written, loop body⟩

private theorem tidy_mapStatements (tidy : c.Tidy)
    {keys elements : Context.Step → Rendered (List Statement)}
    (keysInside : ∀ step : Context.Step, step.Tidy → GivesAll Statement.Tidy (keys step))
    (valuesInside : ∀ step : Context.Step, step.Tidy → GivesAll Statement.Tidy (elements step))
    (rules : List (MapRule FieldRules)) :
    GivesAll Statement.Tidy (mapStatements keys elements c rules) := by
  have accessor := balanced_accessor tidy
  have key (index : Option Nat) : Context.Step.Tidy ⟨"key", "Key", index⟩ :=
    ⟨(by decide : Balanced "key"), (by decide : Plain "Key")⟩
  have value (index : Option Nat) : Context.Step.Tidy ⟨"value", "Value", index⟩ :=
    ⟨(by decide : Balanced "value"), (by decide : Plain "Value")⟩
  have loop {parts parameter : String} (view : Balanced parts) (named : Plain parameter)
      {ss : List Statement} (body : ∀ s ∈ ss, s.Tidy) :
      ∀ s ∈ Statement.forAll "MapValidation.validateParts" (Java.accessor c ++ parts) parameter ss,
        s.Tidy :=
    Statement.tidy_forAll (by decide) (accessor.append view) named body
  have declared : GivesAll Statement.Tidy (alternativeStatements rules fun r i => do
      let calls ← callStatements c i r.error none (Java.accessor c) (Call.ofMap r)
      let key ← if r.keys.isSome then keys ⟨"key", "Key", some i⟩ else pure []
      let value ← if r.values.isSome then elements ⟨"value", "Value", some i⟩ else pure []
      return Statement.guarded (onlyIf r.ignoreEmpty (notEmpty c))
        (calls ++ Statement.forAll "MapValidation.validateParts" (Java.accessor c ++ ".keySet()")
            "key" key ++
          Statement.forAll "MapValidation.validateParts" (Java.accessor c ++ ".values()")
            "value" value)) := by
    refine gives_alternativeStatements fun r i => .bind fun calls written => ?_
    refine gives_inside (key _) keysInside fun keyBody keyTidy => ?_
    refine gives_inside (value _) valuesInside fun valueBody valueTidy => .ok ?_
    refine Statement.tidy_guarded (balanced_onlyIf (balanced_notEmpty tidy) _) ?_
    refine List.forall_mem_append.mpr ⟨List.forall_mem_append.mpr ⟨?_, ?_⟩, ?_⟩
    · exact tidy_callStatements tidy balanced_unguarded accessor (Call.tidy_ofMap r) calls written
    · exact loop (by decide) (by decide) keyTidy
    · exact loop (by decide) (by decide) valueTidy
  refine .bind fun front written => gives_inside (value _) valuesInside fun embedded body => .ok ?_
  exact List.forall_mem_append.mpr ⟨declared front written, loop (by decide) (by decide) body⟩

end Field

/-- The statements that check a field leave no bracket open. -/
theorem statementsPass_yields {files : List File} (names : ∀ file ∈ files, file.PlainNames) :
    (statementsPass (Schema.ofFiles files)).Yields Statement.Tidy where
  message _ rules tidy _ := tidy_messageStatements tidy rules
  value _ v tidy _ := tidy_valueStatements names tidy v
  wrapper _ _ tidy inside := tidy_wrapperStatements tidy inside
  repeated _ _ rules tidy _ inside := tidy_repeatedStatements tidy inside rules
  map _ _ _ rules tidy _ keysInside valuesInside :=
    tidy_mapStatements tidy keysInside valuesInside rules

end ProtoRules.Java
