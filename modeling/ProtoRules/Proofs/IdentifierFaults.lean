import ProtoRules.Proofs.ArtifactPaths
import ProtoRules.Proofs.EarlyReturns
import ProtoRules.Proofs.GenerationFaults
import ProtoRules.Proofs.Identifiers

/-!
Names that the language does not take. Where fields go by names of letters, digits and underscores,
what is written for their values never comes upon a bad identifier; the one place where it can be is
the pattern for a member of a oneof, whose name is capitalised.
-/

namespace ProtoRules

open Text

/-- Whether a fault is that of a bad identifier only for certain names. -/
def RenderError.Blames (P : String → Prop) : RenderError → Prop
  | .badIdentifier name => P name
  | _ => True

abbrev SparesNames {α : Type} (x : Rendered α) : Prop :=
  FaultsWithin (RenderError.Blames fun _ => False) x

private theorem FaultsWithin.blames {α : Type} {x : Rendered α} (spares : SparesNames x)
    (P : String → Prop) : FaultsWithin (RenderError.Blames P) x := by
  refine spares.mono fun e other => ?_
  cases e with
  | badIdentifier name => exact other.elim
  | _ => trivial

/-- The field and, if it has one, the name of the value make identifiers. -/
structure Context.Named (c : Context) : Prop where
  field : IsIdentifier c.field.name
  accessor : ∀ name ∈ c.accessor, IsIdentifier name

namespace Context

variable {c e : Context}

private theorem field_of_ofField {message : Message} {field : Field}
    (projected : ofField message field = .ok c) : c.field = field ∧ c.accessor = none := by
  simp only [ofField, bind_eq_ok_iff, pure_eq_ok_iff] at projected
  obtain ⟨_, _, _, _, _, _, rfl⟩ := projected
  exact ⟨rfl, rfl⟩

private theorem named_of_ofField {message : Message} {field : Field}
    (legal : IsIdentifier field.name) (projected : ofField message field = .ok c) : c.Named := by
  obtain ⟨rfl, plain⟩ := field_of_ofField projected
  refine ⟨legal, fun name given => ?_⟩
  rw [plain] at given
  cases given

theorem Named.rename (named : c.Named) {name : String} (legal : IsIdentifier name) :
    Named { c with accessor := some name } :=
  ⟨named.field, fun _ given => Option.some.inj given ▸ legal⟩

theorem Named.unwrap (named : c.Named) {name : String} (legal : IsIdentifier name)
    (led : c.unwrap name = .ok e) : e.Named := by
  obtain ⟨_, _, rfl⟩ := derive_unwrapping led
  exact ⟨named.field, fun _ given => Option.some.inj given ▸ legal⟩

/-- A position inside a collection goes by a name of its own. -/
theorem Named.enter (named : c.Named) {d : Derivation} (enters : d.enters = true)
    (led : c.derive d = .ok e) {name : String} (given : e.accessor = some name)
    (legal : IsIdentifier name) : e.Named := by
  obtain ⟨_, _, _, _, _, _, child⟩ := derive_entering enters led
  refine ⟨child.field ▸ named.field, fun other same => ?_⟩
  rw [given] at same
  exact Option.some.inj same ▸ legal

end Context

section Lifts

variable {α : Type}

private theorem SchemaError.render_sparesNames (x : Except SchemaError α) :
    SparesNames (SchemaError.render x) := by
  cases x with
  | ok a => exact .ok a
  | error e => exact .error trivial

private theorem ProjectionError.render_sparesNames (x : Except ProjectionError α) :
    SparesNames (ProjectionError.render x) := by
  cases x with
  | ok a => exact .ok a
  | error e => exact .error trivial

private theorem TemporalError.render_sparesNames (x : Except TemporalError α) :
    SparesNames (TemporalError.render x) := by
  cases x with
  | ok a => exact .ok a
  | error e => exact .error trivial

end Lifts

namespace Rust

variable {schema : Schema} {package : String} {c : Context} {own : Option ErrorSpec}

private theorem fieldIdentifier_sparesNames {name : String} (legal : IsIdentifier name) :
    SparesNames (fieldIdentifier name) :=
  .of_eq_ok (fieldIdentifier_of_isIdentifier legal)

private theorem path_sparesNames (text : String) : SparesNames (path text) := by
  unfold path
  split
  · exact .ok _
  · exact .error trivial

private theorem typePath_sparesNames (schema : Schema) (package fullName : String) :
    SparesNames (typePath schema package fullName) := by
  unfold typePath
  dsimp only
  split
  · exact .error trivial
  · exact path_sparesNames _

private theorem raise_sparesNames (base : Option ErrorBase) (spec : ErrorSpec) :
    SparesNames (raise base spec) :=
  .bind (path_sparesNames _) fun _ _ => .pure _

private theorem fail_sparesNames (c : Context) (own : Option ErrorSpec) :
    SparesNames (fail c own) := by
  unfold fail
  split
  · exact .error trivial
  · exact raise_sparesNames _ _

private theorem place_sparesNames (named : c.Named) (byAccessor byField : Token → Tokens) :
    SparesNames (place c byAccessor byField) := by
  unfold place
  split
  · rename_i accessor given
    have legal := named.accessor accessor given
    exact .bind (.of_eq_ok (identifier_of_isIdentifier legal)) fun _ _ => .pure _
  · exact .bind (fieldIdentifier_sparesNames named.field) fun _ _ => .pure _

private theorem returns_sparesNames (c : Context) (own : Option ErrorSpec)
    (violations : List Violation) :
    SparesNames (returns c own violations) :=
  .ite (fun _ => .ok []) fun _ => .bind (fail_sparesNames c own) fun _ _ => .pure _

private theorem bind_sparesNames (named : c.Named) (checks : Tokens) :
    SparesNames (bind c checks) :=
  .ite (fun _ => .ok []) fun _ => .bind (place_sparesNames named _ _) fun _ _ => .pure _

private theorem optional_sparesNames (named : c.Named) (missing present : Tokens) :
    SparesNames (optional c missing present) :=
  .ite (fun _ => .ok []) fun _ => .bind (place_sparesNames named _ _) fun _ _ => .pure _

private theorem requiredReturn_sparesNames (c : Context) (own : Option ErrorSpec)
    (isRequired : Bool) :
    SparesNames (requiredReturn c own isRequired) :=
  .ite (fun _ => fail_sparesNames c own) fun _ => .ok []

private theorem bothReturns_sparesNames {α : Type} {one : α → Rendered (Tokens × Tokens)}
    (each : ∀ r, SparesNames (one r)) (rules : List α) :
    SparesNames (bothReturns one rules) := by
  induction rules with
  | nil => exact .ok _
  | cons r rules ih => exact .bind (each r) fun _ _ => .bind ih fun _ _ => .pure _

section Scale

variable {α : Type} (scale : α → Except TemporalError Int)

private theorem scaled?_sparesNames (value : Option α) : SparesNames (scaled? scale value) := by
  cases value with
  | none => exact .ok none
  | some v => exact .bind (TemporalError.render_sparesNames _) fun _ _ => .pure _

private theorem scaledAll_sparesNames (values : List α) : SparesNames (scaledAll scale values) :=
  .concatM fun _ _ => .bind (TemporalError.render_sparesNames _) fun _ _ => .pure _

private theorem scaledBounds_sparesNames (c : Context) (own : Option ErrorSpec) (b : Bounds α) :
    SparesNames (scaledBounds scale c own b) := by
  refine .bind (scaled?_sparesNames scale _) fun _ _ => ?_
  refine .bind (returns_sparesNames c own _) fun _ _ => ?_
  refine .bind (scaled?_sparesNames scale _) fun _ _ => ?_
  refine .bind (scaled?_sparesNames scale _) fun _ _ => ?_
  refine .bind (scaled?_sparesNames scale _) fun _ _ => ?_
  refine .bind (scaled?_sparesNames scale _) fun _ _ => ?_
  exact .bind (returns_sparesNames c own _) fun _ _ => .pure _

end Scale

private theorem durationReturns_sparesNames (c : Context) (r : DurationRule) :
    SparesNames (durationReturns c r) := by
  refine .bind (requiredReturn_sparesNames c _ _) fun _ _ => ?_
  refine .bind (scaledBounds_sparesNames _ c _ _) fun _ _ => ?_
  refine .bind (scaledAll_sparesNames _ _) fun _ _ => ?_
  refine .bind (scaledAll_sparesNames _ _) fun _ _ => ?_
  exact .bind (returns_sparesNames c _ _) fun _ _ => .pure _

private theorem timestampReturns_sparesNames (c : Context) (r : TimestampRule) :
    SparesNames (timestampReturns c r) := by
  refine .bind (requiredReturn_sparesNames c _ _) fun _ _ => ?_
  refine .bind (scaledBounds_sparesNames _ c _ _) fun _ _ => ?_
  refine .bind (returns_sparesNames c _ _) fun _ _ => ?_
  refine .bind (returns_sparesNames c _ _) fun _ _ => ?_
  refine .bind (scaled?_sparesNames _ _) fun _ _ => ?_
  exact .bind (returns_sparesNames c _ _) fun _ _ => .pure _

private theorem anyReturns_sparesNames (c : Context) (r : AnyRule) :
    SparesNames (anyReturns c r) := by
  refine .bind (requiredReturn_sparesNames c _ _) fun _ _ => ?_
  exact .bind (returns_sparesNames c _ _) fun _ _ => .pure _

private theorem valueTokens_sparesNames (named : c.Named) (v : ValueRules) :
    SparesNames (valueTokens schema package c v) := by
  have alternatives {ρ : Type} (own : ρ → Option ErrorSpec) (violations : ρ → List Violation)
      (guard : ρ → Tokens → Tokens) (rules : List ρ) :
      SparesNames (concatM (fun r => do
        return guard r (← returns c (own r) (violations r))) rules >>= Rust.bind c) := by
    refine .bind (.concatM fun r _ => ?_) fun _ _ => bind_sparesNames named _
    exact .bind (returns_sparesNames c _ _) fun _ _ => .pure _
  unfold valueTokens
  cases v with
  | any rules =>
      refine .bind (bothReturns_sparesNames (anyReturns_sparesNames c) rules) fun _ _ => ?_
      exact optional_sparesNames named _ _
  | bool r => exact .bind (returns_sparesNames c _ _) fun _ _ => bind_sparesNames named _
  | bytes rules => exact alternatives _ _ _ rules
  | duration rules =>
      refine .bind (bothReturns_sparesNames (durationReturns_sparesNames c) rules) fun _ _ => ?_
      exact optional_sparesNames named _ _
  | enum rules =>
      dsimp only
      split
      · exact .error trivial
      · refine .bind (SchemaError.render_sparesNames _).discard fun _ _ => ?_
        refine .bind (typePath_sparesNames schema package _) fun type _ => ?_
        refine .bind (.concatM fun r _ => ?_) fun _ _ => bind_sparesNames named _
        exact returns_sparesNames c _ _
  | numeric k rules => exact alternatives _ _ _ rules
  | string rules => exact alternatives _ _ _ rules
  | timestamp rules =>
      refine .bind (bothReturns_sparesNames (timestampReturns_sparesNames c) rules) fun _ _ => ?_
      exact optional_sparesNames named _ _

private theorem messageTokens_sparesNames (named : c.Named) (rules : Option MessageRules) :
    SparesNames (messageTokens c rules) := by
  unfold messageTokens
  dsimp only
  refine .ite (fun _ => .pure _) fun _ => ?_
  have embedded : ∀ required : Tokens, SparesNames (do
      let embedded ←
        if c.shape.single?.any ElementType.isPlainMessage then
          place c (fun name => validated [name]) (fun field =>
            [.word "if", .word "let"] ++ optionSome ++ [parens [.word "m"], .op "=", .op "&",
              .word "self", .op ".", field, braces (validated [.word "m"])])
        else pure []
      return required ++ embedded) := fun _ =>
    .ite (fun _ => .bind (place_sparesNames named _ _) fun _ _ => .pure _) fun _ => .pure _
  split
  · refine .bind (fieldIdentifier_sparesNames named.field) fun _ _ => ?_
    exact .bind (fail_sparesNames c _) fun _ _ => embedded _
  · exact embedded []

private theorem wrapperTokens_sparesNames (named : c.Named) {inner : String → Rendered Tokens}
    (inside : ∀ accessor, IsIdentifier accessor → SparesNames (inner accessor)) :
    SparesNames (wrapperTokens inner c) := by
  unfold wrapperTokens
  split
  · rename_i accessor given
    exact inside accessor (named.accessor accessor given)
  · refine .bind (inside "inner" (by decide)) fun present _ => ?_
    have written : ∀ missing : Tokens, SparesNames
        (if present.isEmpty && missing.isEmpty then pure [] else do
          let field ← fieldIdentifier c.field.name
          return matchOption [.op "&", .word "self", .op ".", field] "inner" present missing) :=
      fun _ => .ite (fun _ => .pure _) fun _ =>
        .bind (fieldIdentifier_sparesNames named.field) fun _ _ => .pure _
    dsimp only
    split
    · exact .bind (fail_sparesNames c _) fun _ _ => written _
    · exact written []

private theorem inside_sparesNames {held : Prop} [Decidable held]
    {write : Context.Step → Rendered Tokens} {step : Context.Step} {next : Tokens → Rendered Tokens}
    (inside : ∀ step : Context.Step, IsIdentifier step.accessor → SparesNames (write step))
    (legal : IsIdentifier step.accessor) (rest : ∀ tokens, SparesNames (next tokens)) :
    SparesNames (if held then write step >>= next else pure [] >>= next) :=
  .ite (fun _ => .bind (inside step legal) fun tokens _ => rest tokens) fun _ => rest []

private theorem repeatedTokens_sparesNames (named : c.Named)
    {elements : Context.Step → Rendered Tokens}
    (inside : ∀ step : Context.Step, IsIdentifier step.accessor → SparesNames (elements step))
    (rules : List (RepeatedRule FieldRules)) : SparesNames (repeatedTokens elements c rules) := by
  have item : IsIdentifier "item" := by decide
  refine .bind (.concatM fun _ _ => ?_) fun _ _ => ?_
  · refine .bind (returns_sparesNames c _ _) fun _ _ => ?_
    exact inside_sparesNames inside item fun _ => .pure _
  · exact inside_sparesNames inside item fun _ => bind_sparesNames named _

private theorem mapTokens_sparesNames (named : c.Named)
    {keys elements : Context.Step → Rendered Tokens}
    (keysInside : ∀ step : Context.Step, IsIdentifier step.accessor → SparesNames (keys step))
    (valuesInside : ∀ step : Context.Step, IsIdentifier step.accessor →
      SparesNames (elements step))
    (rules : List (MapRule FieldRules)) : SparesNames (mapTokens keys elements c rules) := by
  have key : IsIdentifier "key" := by decide
  have value : IsIdentifier "value" := by decide
  refine .bind (.concatM fun _ _ => ?_) fun _ _ => ?_
  · refine .bind (returns_sparesNames c _ _) fun _ _ => ?_
    refine inside_sparesNames keysInside key fun _ => ?_
    exact inside_sparesNames valuesInside value fun _ => .pure _
  · exact inside_sparesNames valuesInside value fun _ => bind_sparesNames named _

private theorem single_sparesNames (named : c.Named) :
    SparesNames ((checksPass schema package).single c) := by
  unfold Pass.single
  split
  · exact .ok []
  · exact messageTokens_sparesNames named _
  · exact valueTokens_sparesNames named _
  · exact .error trivial
  · rename_i v _
    refine wrapperTokens_sparesNames named fun accessor legal => ?_
    refine .bind (ProjectionError.render_sparesNames _) fun d led => ?_
    exact valueTokens_sparesNames (named.unwrap legal (ProjectionError.render_eq_ok_iff.mp led)) v

private theorem render_sparesNames (named : c.Named) :
    SparesNames ((checksPass schema package).render c) := by
  have keys : ∀ step : Context.Step, IsIdentifier step.accessor → SparesNames
      (ProjectionError.render (c.key step) >>= (checksPass schema package).single) := by
    intro step legal
    refine .bind (ProjectionError.render_sparesNames _) fun d led => ?_
    have led : c.key step = .ok d := ProjectionError.render_eq_ok_iff.mp led
    have inner := named.enter (d := .key step) rfl led (accessor_of_key led) legal
    exact single_sparesNames inner
  have elements : ∀ step : Context.Step, IsIdentifier step.accessor → SparesNames
      (ProjectionError.render (c.element step) >>= (checksPass schema package).single) := by
    intro step legal
    refine .bind (ProjectionError.render_sparesNames _) fun d led => ?_
    have led : c.element step = .ok d := ProjectionError.render_eq_ok_iff.mp led
    have inner := named.enter (d := .element step) rfl led (accessor_of_element led) legal
    exact single_sparesNames inner
  unfold Pass.render
  split
  · exact repeatedTokens_sparesNames named elements _
  · exact mapTokens_sparesNames named keys elements _
  · exact single_sparesNames named

section Message

variable {message : Message} {field : Field}

/-- The name of a member is only capitalised after its checks are written. -/
private theorem memberArm_blames (legal : IsIdentifier field.name) (type : Tokens) :
    FaultsWithin (RenderError.Blames fun name =>
        isHollow field.name = true ∧ name = pascal field.name)
      (memberArm schema package message type field) := by
  refine .bind ((ProjectionError.render_sparesNames _).blames _) fun c projected => ?_
  have named := Context.named_of_ofField legal (ProjectionError.render_eq_ok_iff.mp projected)
  have value : IsIdentifier "v" := by decide
  refine .bind ((render_sparesNames (named.rename value)).blames _) fun _ _ => ?_
  refine .bind ?_ fun _ _ => .pure _
  rw [identifier_pascal legal]
  exact .ite (fun hollow => .error ⟨hollow, rfl⟩) fun _ => .ok _

private theorem isHollow_of_memberArm (legal : IsIdentifier field.name) {type ts : Tokens}
    (written : memberArm schema package message type field = .ok ts) :
    isHollow field.name = false := by
  simp only [memberArm, bind_eq_ok_iff, identifier_pascal legal] at written
  obtain ⟨_, _, _, _, _, variant, _⟩ := written
  by_contra hollow
  rw [if_pos (Bool.of_not_eq_false hollow)] at variant
  cases variant

end Message

end Rust

/-- A field that stands for a member of a oneof, in a message with checks, under a hollow name. -/
structure Message.HollowMember (message : Message) (field : Field) : Prop where
  declared : ∃ oneof ∈ message.oneofs, field ∈ message.oneofFields oneof.name
  enabled : message.isDisabled = .ok false
  hollow : isHollow field.name = true

/-- Every field, every oneof and every part of the name of a package, a message or an enum goes by a
name of letters, digits and underscores. -/
structure File.LegalNames (file : File) : Prop where
  package : file.package = "" ∨ ∀ part ∈ splitOn '.' file.package, IsIdentifier part
  enums : ∀ e ∈ file.enums, ∀ part ∈ splitOn '.' e.name, IsIdentifier part
  messages : ∀ m ∈ file.messages, ∀ part ∈ splitOn '.' m.name, IsIdentifier part
  fields : ∀ m ∈ file.messages, ∀ f ∈ m.fields, IsIdentifier f.name
  oneofs : ∀ m ∈ file.messages, ∀ o ∈ m.oneofs, IsIdentifier o.name

namespace Rust

variable {schema : Schema} {file : File} {message : Message}

private theorem missingMember_sparesNames (message : Message) (oneof : Oneof) :
    SparesNames (missingMember message oneof) := by
  refine .bind (SchemaError.render_sparesNames _) fun rules _ => ?_
  split
  · exact .error trivial
  · exact .bind (SchemaError.render_sparesNames _) fun _ _ => raise_sparesNames _ _
  · exact .pure _

private theorem bodyTokens_blames (legal : file.LegalNames) (member : message ∈ file.messages)
    (package : String) :
    FaultsWithin (RenderError.Blames fun name =>
        ∃ field, message.HollowMember field ∧ name = pascal field.name)
      (bodyTokens schema package message) := by
  refine .bind ((SchemaError.render_sparesNames _).blames _) fun disabled read => ?_
  refine .ite (fun _ => .pure _) fun enabled => ?_
  obtain rfl : disabled = false := Bool.eq_false_iff.mpr enabled
  have fields := legal.fields message member
  refine .bind (.blames (.concatM fun field inside => ?_) _) fun _ _ => ?_
  · refine .bind (ProjectionError.render_sparesNames _) fun c projected => ?_
    have projected := ProjectionError.render_eq_ok_iff.mp projected
    have listed := fields field (Message.mem_fields_of_mem_plainFields inside)
    exact render_sparesNames (Context.named_of_ofField listed projected)
  · refine .bind (.concatM fun oneof declared => ?_) fun _ _ => .pure _
    refine .bind ((fieldIdentifier_sparesNames ?_).blames _) fun _ _ => ?_
    · exact legal.oneofs message member oneof declared
    · refine .bind ((path_sparesNames _).blames _) fun type _ => ?_
      refine .bind (.concatM fun field inside => ?_) fun _ _ => ?_
      · have listed := fields field (Message.mem_fields_of_mem_oneofFields inside)
        refine (memberArm_blames listed type).mono fun e blamed => ?_
        cases e with
        | badIdentifier name =>
            obtain ⟨hollow, same⟩ := blamed
            have read := SchemaError.render_eq_ok_iff.mp read
            exact ⟨field, ⟨⟨oneof, declared, inside⟩, read, hollow⟩, same⟩
        | _ => trivial
      · exact .bind ((missingMember_sparesNames message oneof).blames _) fun _ _ => .pure _

private theorem not_hollowMember_of_bodyTokens (legal : file.LegalNames)
    (member : message ∈ file.messages)
    {package : String} {ts : Tokens} (written : bodyTokens schema package message = .ok ts)
    (field : Field) : ¬ message.HollowMember field := by
  intro ⟨⟨oneof, declared, inside⟩, enabled, hollow⟩
  simp only [bodyTokens, enabled, SchemaError.render, ok_bind, Bool.false_eq_true, ite_false,
    bind_eq_ok_iff] at written
  obtain ⟨_, _, _, oneofs, _⟩ := written
  obtain ⟨_, rendered⟩ := concatM_eq_ok oneofs oneof declared
  simp only [oneofMatch, bind_eq_ok_iff] at rendered
  obtain ⟨_, _, _, _, _, arms, _⟩ := rendered
  obtain ⟨_, arm⟩ := concatM_eq_ok arms field inside
  have listed := legal.fields message member field (Message.mem_fields_of_mem_oneofFields inside)
  rw [isHollow_of_memberArm listed arm] at hollow
  cases hollow

private theorem renderUnit_blames (legal : file.LegalNames) {unit : OutputUnit}
    (members : ∀ m ∈ unit.messages, m ∈ file.messages) :
    FaultsWithin (RenderError.Blames fun name => ∃ m ∈ unit.messages, ∃ field,
        m.HollowMember field ∧ name = pascal field.name)
      (renderUnit schema unit) := by
  refine .bind (.concatM fun m member => ?_) fun _ _ => .pure _
  refine .bind ((typePath_sparesNames schema _ _).blames _) fun _ _ => ?_
  refine .bind ((bodyTokens_blames legal (members m member) _).mono fun e blamed => ?_) fun _ _ =>
    .pure _
  cases e with
  | badIdentifier name => exact ⟨m, member, blamed⟩
  | _ => trivial

private theorem not_hollowMember_of_renderUnit (legal : file.LegalNames) {unit : OutputUnit}
    (members : ∀ m ∈ unit.messages, m ∈ file.messages) {text : String}
    (written : renderUnit schema unit = .ok text) :
    ∀ m ∈ unit.messages, ∀ field, ¬ m.HollowMember field := by
  simp only [renderUnit, bind_eq_ok_iff] at written
  obtain ⟨_, methods, _⟩ := written
  intro m member
  obtain ⟨_, method⟩ := concatM_eq_ok methods m member
  simp only [messageImplementation, bind_eq_ok_iff] at method
  obtain ⟨_, _, _, body, _⟩ := method
  exact not_hollowMember_of_bodyTokens legal (members m member) body

end Rust

open Generate

private theorem InOrder.exists_part {ε α β : Type} {Comes : α → Except ε (List β) → Prop}
    {xs : List α}
    {ys : List β} (run : InOrder Comes xs (.ok ys)) : ∀ x ∈ xs, ∃ part, Comes x (.ok part) := by
  obtain ⟨parts, steps, rfl⟩ := run
  induction steps with
  | nil => exact fun x member => absurd member List.not_mem_nil
  | cons first _ ih => exact List.forall_mem_cons.mpr ⟨⟨_, first⟩, ih⟩

/-- A message that is written for a file. -/
structure File.Writes (file : File) (message : Message) : Prop where
  declared : message ∈ file.messages
  kept : message.isIgnored = .ok false

section Run

variable {schema : Schema} {file : File} {s : Settings} (legal : file.LegalNames)
  (rust : s.language = .rust)

private theorem rust_units {units : List OutputUnit}
    (written : Language.units .rust file = .ok units) :
    ∃ unit, units = [unit] ∧ ∀ m, m ∈ unit.messages ↔ file.Writes m := by
  have written : Rust.units file = .ok units := SchemaError.render_eq_ok_iff.mp written
  simp only [Rust.units, bind_eq_ok_iff, pure_eq_ok_iff] at written
  obtain ⟨messages, read, rfl⟩ := written
  refine ⟨_, rfl, fun m => (OutputUnit.mem_validated_iff read).trans ?_⟩
  exact ⟨fun ⟨declared, kept⟩ => ⟨declared, kept⟩, fun ⟨declared, kept⟩ => ⟨declared, kept⟩⟩

include legal rust

private theorem hollowMember_of_fileComes {name : String}
    (comes : FileComes s schema file (.error (.render (.badIdentifier name)))) :
    ∃ m, file.Writes m ∧ ∃ field, m.HollowMember field ∧ name = pascal field.name := by
  cases comes with
  | unsplit _ failed =>
      obtain ⟨_, isSchema, _⟩ := units_faultsWithin s.language file _ failed
      cases isSchema
  | split _ written run =>
      rw [rust] at written
      obtain ⟨unit, rfl, writes⟩ := rust_units written
      obtain ⟨before, other, after, whole, _, comes⟩ := run
      have same : other = unit := by
        have member : other ∈ [unit] := whole ▸ List.mem_append_right _ List.mem_cons_self
        exact List.mem_singleton.mp member
      rw [same] at comes
      cases comes with
      | unwritten failed =>
          rw [rust] at failed
          have members : ∀ m ∈ unit.messages, m ∈ file.messages := fun m member =>
            ((writes m).mp member).declared
          obtain ⟨m, member, blamed⟩ := Rust.renderUnit_blames legal members _ failed
          exact ⟨m, (writes m).mp member, blamed⟩

private theorem not_hollowMember_of_fileComes {artifacts : List Artifact}
    (comes : FileComes s schema file (.ok artifacts)) :
    ∀ m, file.Writes m → ∀ field, ¬ m.HollowMember field := by
  cases comes with
  | split _ written run =>
      rw [rust] at written
      obtain ⟨unit, rfl, writes⟩ := rust_units written
      have members : ∀ m ∈ unit.messages, m ∈ file.messages := fun m member =>
        ((writes m).mp member).declared
      have rendered : ∃ text, s.language.renderUnit schema unit = .ok text := by
        obtain ⟨_, comes⟩ := run.exists_part unit List.mem_cons_self
        cases comes with
        | whole written _ => exact ⟨_, written⟩
        | inside written _ _ => exact ⟨_, written⟩
      rw [rust] at rendered
      obtain ⟨text, rendered⟩ := rendered
      intro m kept
      exact Rust.not_hollowMember_of_renderUnit legal members rendered m ((writes m).mpr kept)

end Run

/-- Where all names are made of letters, digits and underscores, a run comes upon a bad identifier
only for a member of a oneof whose name is hollow, and it never succeeds if there is such a member
in what it has to write. -/
theorem execute_bad_identifiers_are_hollow_members {request : Request} {config : Config}
    (parsed : Config.parse request.parameter = .ok config) (rust : config.lang = "rust")
    (legal : ∀ file ∈ request.files, file.LegalNames) (formatters : Formatters) :
    (∀ name, execute formatters request = .error (.render (.badIdentifier name)) →
      ∃ file ∈ request.generatedFiles, ∃ m, file.Writes m ∧
        ∃ field, m.HollowMember field ∧ name = pascal field.name) ∧
    ∀ artifacts, execute formatters request = .ok artifacts →
      ∀ file ∈ request.generatedFiles, ∀ m, file.Writes m → ∀ field, ¬ m.HollowMember field := by
  have known : Language.ofName config.lang = .ok .rust := rust ▸ rfl
  have run : execute formatters request = generateFor formatters request config
      request.filesToGenerate := by
    rw [execute, parsed]
    rfl
  have legal : ∀ file ∈ request.generatedFiles, file.LegalNames := fun file member =>
    legal file (Request.generatedFiles_subset member)
  rw [run, generateFor_eq known]
  constructor
  · intro name failed
    rcases bind_eq_error_iff.mp failed with chosen | ⟨files, chosen, failed⟩
    · unfold selected at chosen
      split at chosen
      · cases chosen
      · rw [namedFiles_eq] at chosen
        split at chosen
        · cases chosen
        · cases chosen
    · obtain rfl := generatedFiles_eq_of_selected chosen
      obtain ⟨before, file, after, whole, _, comes⟩ := filesArtifacts_eq_iff.mp failed
      have member : file ∈ request.generatedFiles :=
        whole ▸ List.mem_append_right _ List.mem_cons_self
      exact ⟨file, member, hollowMember_of_fileComes (legal file member) rfl comes⟩
  · intro artifacts written
    obtain ⟨files, chosen, written⟩ := bind_eq_ok_iff.mp written
    obtain rfl := generatedFiles_eq_of_selected chosen
    intro file member
    obtain ⟨part, comes⟩ := (filesArtifacts_eq_iff.mp written).exists_part file member
    exact not_hollowMember_of_fileComes (legal file member) rfl comes

/-- A file with a oneof that has one member. -/
def addressBook (member : String) : File where
  name := "contacts.proto"
  package := "acme"
  messages := [{
    name := "Contact"
    fields := [
      { name := member, shape := .single (.scalar (.numeric .int32)), oneof := some "choice" }]
    oneofs := [{ name := "choice" }] }]

def bookRequest (member : String) : Request where
  files := [addressBook member]
  parameter := "lang=rust,format=false"

private theorem addressBook_legal {member : String} (legal : IsIdentifier member) :
    ∀ file ∈ (bookRequest member).files, file.LegalNames := by
  have package : ∀ part ∈ splitOn '.' "acme", IsIdentifier part := by decide
  have name : ∀ part ∈ splitOn '.' "Contact", IsIdentifier part := by decide
  have oneof : IsIdentifier "choice" := by decide
  refine List.forall_mem_singleton.mpr ⟨.inr package, nofun, ?_, ?_, ?_⟩
  · exact List.forall_mem_singleton.mpr name
  · exact List.forall_mem_singleton.mpr (List.forall_mem_singleton.mpr legal)
  · exact List.forall_mem_singleton.mpr (List.forall_mem_singleton.mpr oneof)

private theorem parse_bookRequest (member : String) :
    Config.parse (bookRequest member).parameter = .ok { lang := "rust", format := false } := by
  show Config.parse "lang=rust,format=false" = _
  decide +kernel

theorem addressBook_members :
    (∃ m, (addressBook "_1").Writes m ∧ ∃ field, m.HollowMember field ∧ "1" = pascal field.name) ∧
    (∃ artifacts, execute (fun _ => none) (bookRequest "_mail") = .ok artifacts) ∧
    ∀ m, (addressBook "_mail").Writes m → ∀ field, ¬ m.HollowMember field := by
  have digit : IsIdentifier "_1" := by decide
  have mail : IsIdentifier "_mail" := by decide
  have failed : execute (fun _ => none) (bookRequest "_1") =
      .error (.render (.badIdentifier "1")) := by decide +kernel
  have succeeded : (execute (fun _ => none) (bookRequest "_mail")).toOption.isSome = true := by
    decide +kernel
  obtain ⟨artifacts, written⟩ := Option.isSome_iff_exists.mp succeeded
  have written := toOption_eq_some_iff.mp written
  obtain ⟨bad, _⟩ := execute_bad_identifiers_are_hollow_members (parse_bookRequest "_1") rfl
    (addressBook_legal digit) fun _ => none
  obtain ⟨_, good⟩ := execute_bad_identifiers_are_hollow_members (parse_bookRequest "_mail") rfl
    (addressBook_legal mail) fun _ => none
  refine ⟨?_, ⟨artifacts, written⟩, good artifacts written _ List.mem_cons_self⟩
  obtain ⟨file, member, blamed⟩ := bad "1" failed
  rwa [List.mem_singleton.mp member] at blamed

/-- A digit is all that is left of a legal name once it is capitalised. -/
theorem execute_fails_on_legal_member :
    ¬ ∀ (formatters : Formatters) (request : Request) (config : Config),
      Config.parse request.parameter = .ok config → config.lang = "rust" → config.format = false →
        (∀ file ∈ request.files, file.LegalNames) →
          ∀ name, execute formatters request ≠ .error (.render (.badIdentifier name)) := by
  intro never
  apply never (fun _ => none) (bookRequest "_1") _ (parse_bookRequest "_1") rfl rfl
    (addressBook_legal (by decide)) "1"
  decide +kernel

end ProtoRules
