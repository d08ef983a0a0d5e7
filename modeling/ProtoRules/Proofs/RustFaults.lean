import ProtoRules.Proofs.PassFaults

/-!
Faults of writing Rust. As in Java every early return has an error to raise, and literals of times
are valid; beside types that cannot be found, names may be none that the language takes.
-/

namespace ProtoRules.Rust

variable {schema : Schema} {package : String} {c : Context} {own : Option ErrorSpec}

private theorem identifier_faultsWithin (name : String) :
    FaultsWithin (WriteFault .rust) (identifier name) := by
  unfold identifier
  exact .ite (fun _ => .ok _) fun _ => .error (.badIdentifier name)

private theorem path_faultsWithin (text : String) :
    FaultsWithin (WriteFault .rust) (path text) := by
  unfold path
  split
  · exact .ok _
  · exact .error (.invalidPath text)

private theorem typePath_faultsWithin (schema : Schema) (package fullName : String) :
    FaultsWithin (WriteFault .rust) (typePath schema package fullName) := by
  unfold typePath
  dsimp only
  split
  · exact .error (.unknownMessage .rust _)
  · exact path_faultsWithin _

private theorem raise_faultsWithin (base : Option ErrorBase) (spec : ErrorSpec) :
    FaultsWithin (WriteFault .rust) (raise base spec) :=
  .bind (path_faultsWithin _) fun _ _ => .pure _

private theorem fail_faultsWithin (raises : c.Raises own) :
    FaultsWithin (WriteFault .rust) (fail c own) := by
  obtain ⟨spec, selected⟩ := raises.error_eq_some
  rw [fail, selected]
  exact raise_faultsWithin c.errorBase spec

private theorem place_faultsWithin (c : Context) (byAccessor byField : Token → Tokens) :
    FaultsWithin (WriteFault .rust) (place c byAccessor byField) := by
  unfold place
  split
  · exact .bind (identifier_faultsWithin _) fun _ _ => .pure _
  · exact .bind (identifier_faultsWithin _) fun _ _ => .pure _

private theorem returns_faultsWithin (raises : c.Raises own) (violations : List Violation) :
    FaultsWithin (WriteFault .rust) (returns c own violations) :=
  .ite (fun _ => .ok []) fun _ => .bind (fail_faultsWithin raises) fun _ _ => .pure _

private theorem bind_faultsWithin (c : Context) (checks : Tokens) :
    FaultsWithin (WriteFault .rust) (bind c checks) :=
  .ite (fun _ => .ok []) fun _ => .bind (place_faultsWithin c _ _) fun _ _ => .pure _

private theorem optional_faultsWithin (c : Context) (missing present : Tokens) :
    FaultsWithin (WriteFault .rust) (optional c missing present) :=
  .ite (fun _ => .ok []) fun _ => .bind (place_faultsWithin c _ _) fun _ _ => .pure _

private theorem requiredReturn_faultsWithin (raises : c.Raises own) (isRequired : Bool) :
    FaultsWithin (WriteFault .rust) (requiredReturn c own isRequired) :=
  .ite (fun _ => fail_faultsWithin raises) fun _ => .ok []

private theorem bothReturns_faultsWithin {α : Type} {one : α → Rendered (Tokens × Tokens)}
    {rules : List α} (each : ∀ r ∈ rules, FaultsWithin (WriteFault .rust) (one r)) :
    FaultsWithin (WriteFault .rust) (bothReturns one rules) := by
  induction rules with
  | nil => exact .ok _
  | cons r rules ih =>
      obtain ⟨first, rest⟩ := List.forall_mem_cons.mp each
      exact .bind first fun _ _ => .bind (ih rest) fun _ _ => .pure _

section Scale

variable {α : Type} {scale : α → Except TemporalError Int}

private theorem scaled?_eq_ok {value : Option α} (valid : ∀ v ∈ value, ∃ n, scale v = .ok n) :
    ∃ n, scaled? scale value = .ok n := by
  cases value with
  | none => exact ⟨none, rfl⟩
  | some v =>
      obtain ⟨n, read⟩ := valid v rfl
      exact ⟨some n, by rw [scaled?, read]; rfl⟩

private theorem scaledAll_eq_ok {values : List α} (valid : ∀ v ∈ values, ∃ n, scale v = .ok n) :
    ∃ ns, scaledAll scale values = .ok ns := by
  induction values with
  | nil => exact ⟨[], rfl⟩
  | cons v values ih =>
      obtain ⟨⟨n, read⟩, rest⟩ := List.forall_mem_cons.mp valid
      obtain ⟨ns, written⟩ := ih rest
      refine ⟨n :: ns, ?_⟩
      unfold scaledAll at written ⊢
      rw [concatM, read, written]
      rfl

private theorem scaledBounds_faultsWithin (raises : c.Raises own) {b : Bounds α}
    (valid : ∀ v ∈ b.values, ∃ n, scale v = .ok n) :
    FaultsWithin (WriteFault .rust) (scaledBounds scale c own b) := by
  simp only [Bounds.values, List.forall_mem_append, Option.mem_toList] at valid
  obtain ⟨⟨⟨⟨const, lt⟩, lte⟩, gt⟩, gte⟩ := valid
  obtain ⟨_, const⟩ := scaled?_eq_ok const
  obtain ⟨_, lt⟩ := scaled?_eq_ok lt
  obtain ⟨_, lte⟩ := scaled?_eq_ok lte
  obtain ⟨_, gt⟩ := scaled?_eq_ok gt
  obtain ⟨_, gte⟩ := scaled?_eq_ok gte
  unfold scaledBounds
  rw [const, lt, lte, gt, gte]
  refine .bind (.ok _) fun _ _ => ?_
  refine .bind (returns_faultsWithin raises _) fun _ _ => ?_
  refine .bind (.ok _) fun _ _ => .bind (.ok _) fun _ _ => .bind (.ok _) fun _ _ => ?_
  refine .bind (.ok _) fun _ _ => ?_
  exact .bind (returns_faultsWithin raises _) fun _ _ => .pure _

end Scale

private theorem durationReturns_faultsWithin {r : DurationRule} (raises : c.Raises r.error)
    (valid : ∀ d ∈ r.literals, d.Valid) :
    FaultsWithin (WriteFault .rust) (durationReturns c r) := by
  simp only [DurationRule.literals, List.forall_mem_append] at valid
  obtain ⟨⟨bounds, allowed⟩, denied⟩ := valid
  obtain ⟨_, allowed⟩ := scaledAll_eq_ok allowed
  obtain ⟨_, denied⟩ := scaledAll_eq_ok denied
  unfold durationReturns
  rw [allowed, denied]
  refine .bind (requiredReturn_faultsWithin raises _) fun _ _ => ?_
  refine .bind (scaledBounds_faultsWithin raises bounds) fun _ _ => ?_
  refine .bind (.ok _) fun _ _ => .bind (.ok _) fun _ _ => ?_
  exact .bind (returns_faultsWithin raises _) fun _ _ => .pure _

private theorem timestampReturns_faultsWithin {r : TimestampRule} (raises : c.Raises r.error)
    (bounds : ∀ t ∈ r.bounds.values, t.Valid) (within : ∀ d ∈ r.within, d.Valid) :
    FaultsWithin (WriteFault .rust) (timestampReturns c r) := by
  obtain ⟨_, distance⟩ := scaled?_eq_ok within
  unfold timestampReturns
  rw [distance]
  refine .bind (requiredReturn_faultsWithin raises _) fun _ _ => ?_
  refine .bind (scaledBounds_faultsWithin raises bounds) fun _ _ => ?_
  refine .bind (returns_faultsWithin raises _) fun _ _ => ?_
  refine .bind (returns_faultsWithin raises _) fun _ _ => ?_
  refine .bind (.ok _) fun _ _ => ?_
  exact .bind (returns_faultsWithin raises _) fun _ _ => .pure _

private theorem anyReturns_faultsWithin {r : AnyRule} (raises : c.Raises r.error) :
    FaultsWithin (WriteFault .rust) (anyReturns c r) := by
  refine .bind (requiredReturn_faultsWithin raises _) fun _ _ => ?_
  exact .bind (returns_faultsWithin raises _) fun _ _ => .pure _

private theorem valueTokens_faultsWithin {v : ValueRules} (accepts : c.Accepts v) :
    FaultsWithin (WriteFault .rust) (valueTokens schema package c v) := by
  obtain ⟨raises, literals⟩ := accepts
  unfold valueTokens
  cases v with
  | any rules =>
      refine .bind (bothReturns_faultsWithin fun r member => ?_) fun _ _ => ?_
      · exact anyReturns_faultsWithin (raises _ (List.mem_map_of_mem member))
      · exact optional_faultsWithin c _ _
  | bool rules =>
      refine .bind (returns_faultsWithin (raises _ List.mem_cons_self) _) fun _ _ => ?_
      exact bind_faultsWithin c _
  | bytes rules =>
      refine .bind (.concatM fun r member => ?_) fun _ _ => bind_faultsWithin c _
      have returns := returns_faultsWithin (raises _ (List.mem_map_of_mem member))
      exact .bind (returns _) fun _ _ => .pure _
  | duration rules =>
      refine .bind (bothReturns_faultsWithin fun r member => ?_) fun _ _ => ?_
      · exact durationReturns_faultsWithin (raises _ (List.mem_map_of_mem member))
          (literals r member)
      · exact optional_faultsWithin c _ _
  | enum rules =>
      dsimp only
      split
      · exact .error (.unknownEnum .rust _)
      · refine .bind (enumeration_faultsWithin .rust schema _).discard fun _ _ => ?_
        refine .bind (typePath_faultsWithin schema package _) fun type _ => ?_
        refine .bind (.concatM fun r member => ?_) fun _ _ => bind_faultsWithin c _
        exact returns_faultsWithin (raises _ (List.mem_map_of_mem member)) _
  | numeric k rules =>
      refine .bind (.concatM fun r member => ?_) fun _ _ => bind_faultsWithin c _
      have returns := returns_faultsWithin (raises _ (List.mem_map_of_mem member))
      exact .bind (returns _) fun _ _ => .pure _
  | string rules =>
      refine .bind (.concatM fun r member => ?_) fun _ _ => bind_faultsWithin c _
      have returns := returns_faultsWithin (raises _ (List.mem_map_of_mem member))
      exact .bind (returns _) fun _ _ => .pure _
  | timestamp rules =>
      refine .bind (bothReturns_faultsWithin fun r member => ?_) fun _ _ => ?_
      · obtain ⟨bounds, within⟩ := literals r member
        exact timestampReturns_faultsWithin (raises _ (List.mem_map_of_mem member)) bounds within
      · exact optional_faultsWithin c _ _

private theorem messageTokens_faultsWithin {rules : Option MessageRules}
    (answered : c.AcceptsMissing (rules <|> c.messageRules)) :
    FaultsWithin (WriteFault .rust) (messageTokens c rules) := by
  unfold messageTokens
  dsimp only
  generalize (rules <|> c.messageRules) = message at answered ⊢
  refine .ite (fun _ => .pure _) fun _ => ?_
  have embedded : ∀ required : Tokens, FaultsWithin (WriteFault .rust) (do
      let embedded ←
        if c.shape.single?.any ElementType.isPlainMessage then
          place c (fun name => validated [name]) (fun field =>
            [.word "if", .word "let"] ++ optionSome ++ [parens [.word "m"], .op "=", .op "&",
              .word "self", .op ".", field, braces (validated [.word "m"])])
        else pure []
      return required ++ embedded) := by
    intro required
    refine .ite (fun _ => ?_) fun _ => .pure _
    exact .bind (place_faultsWithin c _ _) fun _ _ => .pure _
  split
  · rename_i m required
    obtain ⟨declared, required⟩ := Option.filter_eq_some_iff.mp required
    have raises := answered m declared (Bool.and_eq_true_iff.mp required).1
    refine .bind (identifier_faultsWithin _) fun _ _ => ?_
    exact .bind (fail_faultsWithin raises) fun _ _ => embedded _
  · exact embedded []

private theorem wrapperTokens_faultsWithin {inner : String → Rendered Tokens}
    (answered : c.AcceptsMissing c.messageRules)
    (inside : ∀ accessor, FaultsWithin (WriteFault .rust) (inner accessor)) :
    FaultsWithin (WriteFault .rust) (wrapperTokens inner c) := by
  unfold wrapperTokens
  split
  · exact inside _
  · refine .bind (inside _) fun present _ => ?_
    have written : ∀ missing : Tokens, FaultsWithin (WriteFault .rust)
        (if present.isEmpty && missing.isEmpty then pure [] else do
          let field ← fieldIdentifier c.field.name
          return matchOption [.op "&", .word "self", .op ".", field] "inner" present missing) :=
      fun _ => .ite (fun _ => .pure _) fun _ => .bind (identifier_faultsWithin _) fun _ _ => .pure _
    dsimp only
    split
    · rename_i m required
      obtain ⟨declared, required⟩ := Option.filter_eq_some_iff.mp required
      exact .bind (fail_faultsWithin (answered m declared required)) fun _ _ => written _
    · exact written []

private theorem repeatedTokens_faultsWithin {elements : Context.Step → Rendered Tokens}
    {rules : List (RepeatedRule FieldRules)} (raises : ∀ r ∈ rules, c.Raises r.error)
    (inside : ∀ step : Context.Step, step.Within rules.length →
      FaultsWithin (WriteFault .rust) (elements step)) :
    FaultsWithin (WriteFault .rust) (repeatedTokens elements c rules) := by
  refine .bind (.concatM_zipIdx fun r member i bound => ?_) fun _ _ => ?_
  · refine .bind (returns_faultsWithin (raises r member) _) fun _ _ => ?_
    exact Pass.inside_faultsWithin inside (.of_some rfl bound) fun _ => .pure _
  · exact Pass.inside_faultsWithin inside (.of_none rfl _) fun _ => bind_faultsWithin c _

private theorem mapTokens_faultsWithin {keys elements : Context.Step → Rendered Tokens}
    {rules : List (MapRule FieldRules)} (raises : ∀ r ∈ rules, c.Raises r.error)
    (keysInside : ∀ step : Context.Step, step.Within rules.length →
      FaultsWithin (WriteFault .rust) (keys step))
    (valuesInside : ∀ step : Context.Step, step.Within rules.length →
      FaultsWithin (WriteFault .rust) (elements step)) :
    FaultsWithin (WriteFault .rust) (mapTokens keys elements c rules) := by
  refine .bind (.concatM_zipIdx fun r member i bound => ?_) fun _ _ => ?_
  · refine .bind (returns_faultsWithin (raises r member) _) fun _ _ => ?_
    refine Pass.inside_faultsWithin keysInside (.of_some rfl bound) fun _ => ?_
    exact Pass.inside_faultsWithin valuesInside (.of_some rfl bound) fun _ => .pure _
  · exact Pass.inside_faultsWithin valuesInside (.of_none rfl _) fun _ => bind_faultsWithin c _

private theorem checksPass_confined (schema : Schema) (package : String) :
    (checksPass schema package).Confined (WriteFault .rust) where
  message _ _ answered := messageTokens_faultsWithin answered
  value _ _ accepts := valueTokens_faultsWithin accepts
  wrapper _ _ answered inside := wrapperTokens_faultsWithin answered inside
  repeated _ _ _ raises inside := repeatedTokens_faultsWithin raises inside
  map _ _ _ _ raises keysInside valuesInside :=
    mapTokens_faultsWithin raises keysInside valuesInside

section Message

variable {message : Message}

private theorem memberArm_faultsWithin (accepted : message.Accepted schema) (type : Tokens)
    {field : Field} (member : field ∈ message.fields) :
    FaultsWithin (WriteFault .rust) (memberArm schema package message type field) := by
  refine accepted.ofField_faultsWithin member fun c declared checked => ?_
  -- The name of the value makes no difference to what the context stands for.
  have named : Context.Checked schema { c with accessor := some "v" } declared :=
    ⟨checked.accepted, checked.resolved, checked.answered⟩
  refine .bind ((checksPass_confined schema package).render named) fun _ _ => ?_
  exact .bind (identifier_faultsWithin _) fun _ _ => .pure _

private theorem missingMember_faultsWithin (accepted : message.Accepted schema) {oneof : Oneof}
    (member : oneof ∈ message.oneofs) :
    FaultsWithin (WriteFault .rust) (missingMember message oneof) := by
  obtain ⟨base, readable⟩ := accepted.readable
  obtain ⟨rules, read, answered⟩ := rules_of_checkOneof (accepted.oneofs oneof member)
  unfold missingMember
  rw [read, readable]
  refine .bind (.ok _) fun _ same => ?_
  cases same
  split
  · cases answered _ rfl rfl
  · exact .bind (.ok _) fun _ _ => raise_faultsWithin _ _
  · exact .pure _

private theorem oneofMatch_faultsWithin (accepted : message.Accepted schema) {oneof : Oneof}
    (member : oneof ∈ message.oneofs) :
    FaultsWithin (WriteFault .rust) (oneofMatch schema package message oneof) := by
  refine .bind (identifier_faultsWithin _) fun _ _ => ?_
  refine .bind (path_faultsWithin _) fun type _ => ?_
  refine .bind (.concatM fun field inside => ?_) fun _ _ => ?_
  · exact memberArm_faultsWithin accepted type (Message.mem_fields_of_mem_oneofFields inside)
  · exact .bind (missingMember_faultsWithin accepted member) fun _ _ => .pure _

private theorem bodyTokens_faultsWithin {disabled : Bool} (read : message.isDisabled = .ok disabled)
    (accepted : disabled = false → message.Accepted schema) :
    FaultsWithin (WriteFault .rust) (bodyTokens schema package message) := by
  unfold bodyTokens
  rw [read]
  refine .bind (.ok _) fun _ same => ?_
  cases same
  refine .ite (fun _ => .pure _) fun enabled => ?_
  have accepted := accepted (Bool.eq_false_iff.mpr enabled)
  refine .bind (.concatM fun field member => ?_) fun _ _ => ?_
  · refine accepted.ofField_faultsWithin (Message.mem_fields_of_mem_plainFields member) ?_
    exact fun c _ checked => (checksPass_confined schema package).render checked
  · refine .bind (.concatM fun _ member => ?_) fun _ _ => .pure _
    exact oneofMatch_faultsWithin accepted member

theorem renderUnit_faultsWithin {file : File} (accepted : checkFile schema file = .ok ())
    {unit : OutputUnit} (members : ∀ message ∈ unit.messages, message ∈ file.messages) :
    FaultsWithin (WriteFault .rust) (renderUnit schema unit) := by
  refine .bind (.concatM fun message member => ?_) fun _ _ => .pure _
  obtain ⟨disabled, read, enabled⟩ := accepted_of_checkFile accepted (members message member)
  refine .bind (typePath_faultsWithin schema _ _) fun _ _ => ?_
  exact .bind (bodyTokens_faultsWithin read enabled) fun _ _ => .pure _

end Message

end ProtoRules.Rust
