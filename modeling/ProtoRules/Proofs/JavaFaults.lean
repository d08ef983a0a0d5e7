import ProtoRules.Proofs.PassFaults

/-!
Faults of writing Java. Every call of an accepted alternative has an error to raise, so all that can
fail is to find the class of an enum or of a message.
-/

namespace ProtoRules

namespace Java

variable {P : RenderError → Prop} {schema : Schema} {c : Context} {own : Option ErrorSpec}

private theorem qualified_faultsWithin (schema : Schema) (fullName : String) :
    FaultsWithin (WriteFault .java) (qualified schema fullName) := by
  unfold qualified
  dsimp only
  split
  · exact .error (.unknownMessage .java _)
  · exact .ok _

private theorem enumClass_faultsWithin (schema : Schema) (c : Context) :
    FaultsWithin (WriteFault .java) (enumClass schema c) := by
  unfold enumClass
  split
  · exact .error (.unknownEnum .java _)
  · rename_i name _
    refine .bind (enumeration_faultsWithin .java schema name).discard fun _ _ => ?_
    exact qualified_faultsWithin schema name

private theorem constantsPass_confined (schema : Schema) :
    (constantsPass schema).Confined (WriteFault .java) where
  message c rules _ := .ok _
  value c v _ := by
    cases v with
    | enum rules => exact .bind (enumClass_faultsWithin schema c) fun _ _ => .pure _
    | _ => exact .ok _
  wrapper inner c _ inside := .bind (inside "") fun _ _ => .pure _
  repeated elements c rules _ inside :=
    .bind (inside _ (Context.Step.Within.of_none rfl _)) fun _ _ => .pure _
  map keys elements c rules _ keysInside valuesInside :=
    .bind (keysInside _ (Context.Step.Within.of_none rfl _)) fun _ _ =>
      .bind (valuesInside _ (Context.Step.Within.of_none rfl _)) fun _ _ => .pure _

private theorem errorOperand_eq_ok (raises : c.Raises own) (alternative : Nat) :
    ∃ spec, c.error own = some spec ∧
      errorOperand c alternative own = .ok (.error (errorName c alternative) spec) := by
  obtain ⟨spec, selected⟩ := raises.error_eq_some
  exact ⟨spec, selected, by rw [errorOperand, selected]⟩

private theorem errorOperand_faultsWithin (raises : c.Raises own) (alternative : Nat) :
    FaultsWithin P (errorOperand c alternative own) := by
  obtain ⟨_, _, written⟩ := errorOperand_eq_ok raises alternative
  exact .of_eq_ok written

private theorem callStatements_faultsWithin (raises : c.Raises own) (alternative : Nat)
    (condition : Option String) (subject : String) (calls : List Call) :
    FaultsWithin P (callStatements c alternative own condition subject calls) := by
  unfold callStatements
  refine .ite (fun _ => .ok []) fun _ => ?_
  exact .bind (errorOperand_faultsWithin raises alternative) fun _ _ => .pure _

private theorem requiredStatement_faultsWithin (raises : c.Raises own) (alternative : Nat)
    (isRequired : Bool) : FaultsWithin P (requiredStatement c alternative own isRequired) := by
  unfold requiredStatement
  refine .ite (fun _ => ?_) fun _ => .ok []
  exact .bind (errorOperand_faultsWithin raises alternative) fun _ _ => .pure _

theorem missingOperand_cases {m : MessageRules} (raises : c.Raises m.error) :
    (c.ownsErrors = true ∧ ∃ spec, m.error = some spec ∧
      missingOperand c m = .ok (.error (requiredName c) spec)) ∨
    c.ownsErrors = false ∧ c.Raises none ∧ missingOperand c m = errorOperand c 0 none := by
  cases owns : c.ownsErrors with
  | true =>
      rw [Context.Raises, owns, if_pos rfl] at raises
      obtain ⟨spec, declared⟩ := Option.isSome_iff_exists.mp raises
      exact .inl ⟨rfl, spec, declared, by rw [missingOperand, owns, declared]⟩
  | false =>
      rw [Context.Raises, owns, if_neg Bool.false_ne_true] at raises
      refine .inr ⟨rfl, ?_, by rw [missingOperand, owns]⟩
      rw [Context.Raises, owns, if_neg Bool.false_ne_true]
      exact raises

private theorem missingOperand_faultsWithin {m : MessageRules} (raises : c.Raises m.error) :
    FaultsWithin P (missingOperand c m) := by
  rcases missingOperand_cases raises with ⟨_, _, _, written⟩ | ⟨_, borrows, written⟩
  · exact .of_eq_ok written
  · rw [written]
    exact errorOperand_faultsWithin borrows 0

private theorem alternativeStatements_faultsWithin {α : Type} {rules : List α}
    {statements : α → Nat → Rendered (List Statement)}
    (each : ∀ r ∈ rules, ∀ i < rules.length, FaultsWithin P (statements r i)) :
    FaultsWithin P (alternativeStatements rules statements) :=
  .concatM_zipIdx each

theorem valueStatements_faultsWithin {v : ValueRules} (accepts : c.Accepts v)
    (types : ∀ rules, v = .enum rules → FaultsWithin P (enumClass schema c)) :
    FaultsWithin P (valueStatements schema c v) := by
  unfold valueStatements
  cases v with
  | any rules =>
      apply alternativeStatements_faultsWithin
      intro r member i _
      have raises : c.Raises r.error := accepts.raises _ (List.mem_map_of_mem member)
      refine .bind (requiredStatement_faultsWithin raises i _) fun _ _ => ?_
      exact .bind (callStatements_faultsWithin raises i _ _ _) fun _ _ => .pure _
  | bool rules =>
      have raises : c.Raises rules.error := accepts.raises _ List.mem_cons_self
      exact callStatements_faultsWithin raises 0 _ _ _
  | bytes rules =>
      apply alternativeStatements_faultsWithin
      intro r member i _
      have raises : c.Raises r.error := accepts.raises _ (List.mem_map_of_mem member)
      exact .bind (callStatements_faultsWithin raises i _ _ _) fun _ _ => .pure _
  | duration rules =>
      apply alternativeStatements_faultsWithin
      intro r member i _
      have raises : c.Raises r.error := accepts.raises _ (List.mem_map_of_mem member)
      refine .bind (requiredStatement_faultsWithin raises i _) fun _ _ => ?_
      exact .bind (callStatements_faultsWithin raises i _ _ _) fun _ _ => .pure _
  | enum rules =>
      refine .bind (types rules rfl) fun type _ => ?_
      apply alternativeStatements_faultsWithin
      intro r member i _
      have raises : c.Raises r.error := accepts.raises _ (List.mem_map_of_mem member)
      exact callStatements_faultsWithin raises i _ _ _
  | numeric k rules =>
      apply alternativeStatements_faultsWithin
      intro r member i _
      have raises : c.Raises r.error := accepts.raises _ (List.mem_map_of_mem member)
      exact .bind (callStatements_faultsWithin raises i _ _ _) fun _ _ => .pure _
  | string rules =>
      apply alternativeStatements_faultsWithin
      intro r member i _
      have raises : c.Raises r.error := accepts.raises _ (List.mem_map_of_mem member)
      exact .bind (callStatements_faultsWithin raises i _ _ _) fun _ _ => .pure _
  | timestamp rules =>
      apply alternativeStatements_faultsWithin
      intro r member i _
      have raises : c.Raises r.error := accepts.raises _ (List.mem_map_of_mem member)
      refine .bind (requiredStatement_faultsWithin raises i _) fun _ _ => ?_
      exact .bind (callStatements_faultsWithin raises i _ _ _) fun _ _ => .pure _

theorem messageStatements_faultsWithin {rules : Option MessageRules}
    (answered : c.AcceptsMissing (rules <|> c.messageRules)) :
    FaultsWithin P (messageStatements c rules) := by
  unfold messageStatements
  dsimp only
  refine .ite (fun _ => .pure _) fun _ => ?_
  generalize (rules <|> c.messageRules) = message at answered ⊢
  cases message with
  | none => exact .pure _
  | some m =>
      refine .ite (fun required => ?_) fun _ => .pure _
      exact .bind (missingOperand_faultsWithin (answered m rfl required)) fun _ _ => .pure _

theorem wrapperStatements_faultsWithin {inner : String → Rendered (List Statement)}
    (answered : c.AcceptsMissing c.messageRules)
    (inside : ∀ accessor, FaultsWithin P (inner accessor)) :
    FaultsWithin P (wrapperStatements inner c) := by
  refine .bind (inside _) fun body _ => ?_
  split
  · rename_i m required
    obtain ⟨declared, required⟩ := Option.filter_eq_some_iff.mp required
    exact .bind (missingOperand_faultsWithin (answered m declared required)) fun _ _ => .pure _
  · exact .pure _

theorem repeatedStatements_faultsWithin {elements : Context.Step → Rendered (List Statement)}
    {rules : List (RepeatedRule FieldRules)} (raises : ∀ r ∈ rules, c.Raises r.error)
    (inside : ∀ step : Context.Step, step.Within rules.length → FaultsWithin P (elements step)) :
    FaultsWithin P (repeatedStatements elements c rules) := by
  refine .bind ?_ fun _ _ => ?_
  · apply alternativeStatements_faultsWithin
    intro r member i bound
    refine .bind (callStatements_faultsWithin (raises r member) i _ _ _) fun _ _ => ?_
    exact Pass.inside_faultsWithin inside (.of_some rfl bound) fun _ => .pure _
  · exact Pass.inside_faultsWithin inside (.of_none rfl _) fun _ => .pure _

theorem mapStatements_faultsWithin {keys elements : Context.Step → Rendered (List Statement)}
    {rules : List (MapRule FieldRules)} (raises : ∀ r ∈ rules, c.Raises r.error)
    (keysInside : ∀ step : Context.Step, step.Within rules.length → FaultsWithin P (keys step))
    (valuesInside : ∀ step : Context.Step, step.Within rules.length →
      FaultsWithin P (elements step)) :
    FaultsWithin P (mapStatements keys elements c rules) := by
  refine .bind ?_ fun _ _ => ?_
  · apply alternativeStatements_faultsWithin
    intro r member i bound
    refine .bind (callStatements_faultsWithin (raises r member) i _ _ _) fun _ _ => ?_
    refine Pass.inside_faultsWithin keysInside (.of_some rfl bound) fun _ => ?_
    exact Pass.inside_faultsWithin valuesInside (.of_some rfl bound) fun _ => .pure _
  · exact Pass.inside_faultsWithin valuesInside (.of_none rfl _) fun _ => .pure _

private theorem statementsPass_confined (schema : Schema) :
    (statementsPass schema).Confined (WriteFault .java) where
  message _ _ answered := messageStatements_faultsWithin answered
  value c _ accepts :=
    valueStatements_faultsWithin accepts fun _ _ => enumClass_faultsWithin schema c
  wrapper _ _ answered inside := wrapperStatements_faultsWithin answered inside
  repeated _ _ _ raises inside := repeatedStatements_faultsWithin raises inside
  map _ _ _ _ raises keysInside valuesInside :=
    mapStatements_faultsWithin raises keysInside valuesInside

section Message

variable {message : Message}

private theorem ofPlainFields_faultsWithin (accepted : message.Accepted schema)
    {fields : List Field} (members : ∀ field ∈ fields, field ∈ message.fields) :
    FaultsWithin (WriteFault .java) (ClassBody.ofPlainFields schema message fields) := by
  induction fields with
  | nil => exact .ok _
  | cons field fields ih =>
      obtain ⟨member, members⟩ := List.forall_mem_cons.mp members
      refine accepted.ofField_faultsWithin member fun c _ checked => ?_
      refine .bind ((constantsPass_confined schema).render checked) fun _ _ => ?_
      refine .bind ((statementsPass_confined schema).render checked) fun _ _ => ?_
      exact .bind (ih members) fun _ _ => .pure _

private theorem oneofConstants_faultsWithin (accepted : message.Accepted schema) {oneof : Oneof}
    (member : oneof ∈ message.oneofs) :
    FaultsWithin (WriteFault .java) (ClassBody.oneofConstants schema message oneof) := by
  obtain ⟨base, readable⟩ := accepted.readable
  obtain ⟨rules, read, _⟩ := rules_of_checkOneof (accepted.oneofs oneof member)
  have members : FaultsWithin (WriteFault .java) (concatM (fun field => do
      (constantsPass schema).render (← ProjectionError.render (Context.ofField message field)))
      (message.oneofFields oneof.name)) := by
    refine .concatM fun field inside => ?_
    refine accepted.ofField_faultsWithin (Message.mem_fields_of_mem_oneofFields inside) ?_
    exact fun c _ checked => (constantsPass_confined schema).render checked
  unfold ClassBody.oneofConstants
  rw [read, readable]
  refine .bind (.ok _) fun _ same => ?_
  cases same
  cases rules.bind (·.error) with
  | none => exact .bind (.pure _) fun _ _ => .bind members fun _ _ => .pure _
  | some spec =>
      refine .bind (.ok _) fun _ _ => .bind (.pure _) fun _ _ => ?_
      exact .bind members fun _ _ => .pure _

private theorem oneofSwitch_faultsWithin (accepted : message.Accepted schema) {oneof : Oneof}
    (member : oneof ∈ message.oneofs) :
    FaultsWithin (WriteFault .java) (ClassBody.oneofSwitch schema message oneof) := by
  obtain ⟨rules, read, answered⟩ := rules_of_checkOneof (accepted.oneofs oneof member)
  unfold ClassBody.oneofSwitch
  refine .bind (.concatM fun field inside => ?_) fun cases _ => ?_
  · refine .bind ?_ fun _ _ => .pure _
    refine accepted.ofField_faultsWithin (Message.mem_fields_of_mem_oneofFields inside) ?_
    intro c _ checked
    exact .bind ((statementsPass_confined schema).render checked) fun _ _ => .pure _
  · rw [read]
    refine .bind (.ok _) fun _ same => ?_
    cases same
    dsimp only
    split
    · cases answered _ rfl rfl
    · exact .pure _
    · exact .pure _

private theorem ofOneofs_faultsWithin (accepted : message.Accepted schema) {oneofs : List Oneof}
    (members : ∀ oneof ∈ oneofs, oneof ∈ message.oneofs) :
    FaultsWithin (WriteFault .java) (ClassBody.ofOneofs schema message oneofs) := by
  induction oneofs with
  | nil => exact .ok _
  | cons oneof oneofs ih =>
      obtain ⟨member, members⟩ := List.forall_mem_cons.mp members
      refine .bind (oneofConstants_faultsWithin accepted member) fun _ _ => ?_
      refine .bind (oneofSwitch_faultsWithin accepted member) fun _ _ => ?_
      exact .bind (ih members) fun _ _ => .pure _

private theorem ofMessage_faultsWithin (accepted : message.Accepted schema) :
    FaultsWithin (WriteFault .java) (ClassBody.ofMessage schema message) := by
  refine .bind (ofPlainFields_faultsWithin accepted ?_) fun _ _ => ?_
  · exact fun field member => Message.mem_fields_of_mem_plainFields member
  · exact .bind (ofOneofs_faultsWithin accepted fun _ member => member) fun _ _ => .pure _

private theorem validatorLines_faultsWithin {file : File} {disabled : Bool}
    (read : message.isDisabled = .ok disabled)
    (accepted : disabled = false → message.Accepted schema) :
    FaultsWithin (WriteFault .java) (validatorLines schema file message) := by
  refine .bind (qualified_faultsWithin schema _) fun type _ => ?_
  rw [read]
  refine .bind (.ok _) fun _ same => ?_
  cases same
  cases disabled with
  | true => exact .pure _
  | false =>
      refine .bind (ofMessage_faultsWithin (accepted rfl)) fun _ _ => ?_
      exact .bind (.pure _) fun _ _ => .pure _

theorem renderUnit_faultsWithin {file : File} (accepted : checkFile schema file = .ok ())
    {unit : OutputUnit} (members : ∀ message ∈ unit.messages, message ∈ file.messages) :
    FaultsWithin (WriteFault .java) (renderUnit schema unit) := by
  apply FaultsWithin.map
  refine .bind (.concatM fun message _ => ?_) fun _ _ => ?_
  · exact .bind (.bind (qualified_faultsWithin schema _) fun _ _ => .pure _) fun _ _ => .pure _
  refine .bind (.concatM fun message member => ?_) fun _ _ => .pure _
  obtain ⟨disabled, read, enabled⟩ := accepted_of_checkFile accepted (members message member)
  exact .bind (validatorLines_faultsWithin read enabled) fun _ _ => .pure _

end Message

end Java

end ProtoRules
