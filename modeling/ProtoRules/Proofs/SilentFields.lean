import ProtoRules.Proofs.Interchange

/-!
Fields that nothing is declared for. A field without rules, outside a oneof and with values that are
no messages of their own is accepted by the check and written as nothing by every pass, so a request
gives the same artifacts or the same fault with and without it.
-/

namespace ProtoRules

/-- The type of the values in the end; keys do not count. -/
def Shape.value : Shape → ElementType
  | single e => e
  | repeated e => e
  | map _ v => v

private theorem Shape.single?_any {test : ElementType → Bool} {s : Shape}
    (fails : test s.value = false) :
    s.single?.any test = false := by
  cases s with
  | single e => exact fails
  | _ => rfl

private theorem Shape.element?_any {test : ElementType → Bool} {s : Shape}
    (fails : test s.value = false) :
    s.element?.any test = false := by
  cases s with
  | single e => rfl
  | _ => exact fails

/-- Whether a field has no rules, is in no oneof, and holds scalars, enum values or well-known
messages. -/
def Field.isSilent (f : Field) : Bool :=
  (f.extensions.raw? rulesKey).isNone && f.oneof.isNone && !f.shape.value.isPlainMessage

theorem Field.isSilent_iff {f : Field} : f.isSilent = true ↔
    f.extensions.raw? rulesKey = none ∧ f.oneof = none ∧ f.shape.value.isPlainMessage = false := by
  simp [isSilent, and_assoc]

private theorem Field.rules_of_isSilent {f : Field} (silent : f.isSilent = true) :
    f.rules = .ok none := by
  rw [rules, Extensions.rules, (isSilent_iff.mp silent).1]

namespace Context

/-- A context with the rules that its shape has without any declaration. -/
structure Undeclared (c : Context) : Prop where
  rules : c.rules = c.shape.defaultRules none
  messageRules : c.messageRules = none

private theorem undeclared_of_ofField {message : Message} {field : Field} {c : Context}
    (silent : field.isSilent = true) (written : ofField message field = .ok c) :
    c.Undeclared ∧ c.shape.value.isPlainMessage = false := by
  simp only [ofField, Field.rules_of_isSilent silent, bind_eq_ok_iff, SchemaError.project_eq_ok_iff,
    pure_eq_ok_iff] at written
  obtain ⟨base, _, declared, read, ⟨rules, messageRules⟩, resolved, rfl⟩ := written
  cases read
  cases resolved
  exact ⟨⟨rfl, rfl⟩, (Field.isSilent_iff.mp silent).2.2⟩

/-- Whether every step leads to a position of an element that nothing is declared for. -/
def LeadsToUndeclared (part : Step → Except ProjectionError Context) (element : ElementType) :
    Prop :=
  ∀ step, ∃ d, part step = .ok d ∧ d.Undeclared ∧ d.shape = .single element

private theorem child_undeclared (c : Context) (step : Step) (element : ElementType)
    (lent : Option ErrorSpec) : ∃ d, c.child step element none lent = .ok d ∧ d.Undeclared ∧
      d.shape = .single element :=
  ⟨_, rfl, ⟨rfl, rfl⟩, rfl⟩

namespace Undeclared

variable {c : Context} (undeclared : c.Undeclared)
include undeclared

private theorem rules_of_single {e : ElementType} (shape : c.shape = .single e) :
    c.rules = .message none ∨ c.rules = .none := by
  rw [undeclared.rules, shape]
  cases e with
  | message name => exact .inl rfl
  | _ => exact .inr rfl

private theorem rules_of_repeated {e : ElementType} (shape : c.shape = .repeated e) :
    c.rules = .typed (.repeated []) := by
  rw [undeclared.rules, shape]
  rfl

private theorem rules_of_map {key e : ElementType} (shape : c.shape = .map key e) :
    c.rules = .typed (.map []) ∨ c.rules = .none := by
  rw [undeclared.rules, shape]
  cases e with
  | message name => exact .inl rfl
  | _ => exact .inr rfl

end Undeclared

section Inside

variable {c : Context}

private theorem element_of_repeated {e : ElementType} (written : c.rules = .typed (.repeated []))
    (shape : c.shape = .repeated e) : LeadsToUndeclared c.element e := by
  intro step
  rw [element, written, shape]
  exact c.child_undeclared step e _

private theorem element_of_map {k e : ElementType} (written : c.rules = .typed (.map []))
    (shape : c.shape = .map k e) : LeadsToUndeclared c.element e := by
  intro step
  rw [element, written, shape]
  exact c.child_undeclared step e _

private theorem key_of_map {k e : ElementType} (written : c.rules = .typed (.map []))
    (shape : c.shape = .map k e) : LeadsToUndeclared c.key k := by
  intro step
  rw [key, written, shape]
  exact c.child_undeclared step k _

end Inside

end Context

namespace Pass

variable {α : Type} {p : Pass α}

/-- Whether a function writes the elements or the keys of a collection that has no rules. -/
def Inside (p : Pass α) (part : Context.Step → Rendered (List α)) : Prop :=
  ∀ step, ∃ d : Context, ∃ e, d.Undeclared ∧ d.shape = .single e ∧ part step = p.single d

private theorem inside_of_leads {part : Context.Step → Except ProjectionError Context}
    {e : ElementType} (leads : Context.LeadsToUndeclared part e) :
    p.Inside (fun step => ProjectionError.render (part step) >>= p.single) := by
  intro step
  obtain ⟨d, written, undeclared, shape⟩ := leads step
  refine ⟨d, e, undeclared, shape, ?_⟩
  simp only [written]
  rfl

/-- A pass that writes nothing for undeclared values that are no messages of their own. -/
structure Quiet (p : Pass α) : Prop where
  message : ∀ c : Context, c.messageRules = none →
    c.shape.value.isPlainMessage = false → p.message c none = .ok []
  repeated : ∀ elements (c : Context), c.shape.value.isPlainMessage = false →
    p.Inside elements → p.repeated elements c [] = .ok []
  map : ∀ keys elements (c : Context), c.shape.value.isPlainMessage = false →
    p.Inside keys → p.Inside elements → p.map keys elements c [] = .ok []

private theorem Quiet.render_eq_nil (quiet : p.Quiet) {c : Context} (undeclared : c.Undeclared)
    (value : c.shape.value.isPlainMessage = false) : p.render c = .ok [] := by
  cases shape : c.shape with
  | single e =>
      rcases undeclared.rules_of_single shape with written | written
      · rw [render, written]
        simp only [single, written]
        exact quiet.message c undeclared.messageRules value
      · rw [render, written]
        simp only [single, written]
  | repeated e =>
      have written := undeclared.rules_of_repeated shape
      rw [render, written]
      exact quiet.repeated _ c value (inside_of_leads (Context.element_of_repeated written shape))
  | map k e =>
      rcases undeclared.rules_of_map shape with written | written
      · rw [render, written]
        exact quiet.map _ _ c value (inside_of_leads (Context.key_of_map written shape))
          (inside_of_leads (Context.element_of_map written shape))
      · rw [render, written]
        simp only [single, written]

end Pass

namespace Java

private theorem constantsPass_quiet (schema : Schema) : (constantsPass schema).Quiet := by
  have inside : ∀ part, (constantsPass schema).Inside part → ∀ step, part step = .ok [] := by
    intro part inside step
    obtain ⟨d, e, undeclared, shape, written⟩ := inside step
    rw [written, Pass.single]
    rcases undeclared.rules_of_single shape with rules | rules
    · rw [rules]
      simp only [constantsPass, undeclared.messageRules]
      rfl
    · rw [rules]
  constructor
  · intro c missing _
    simp only [constantsPass, missing]
    rfl
  · intro elements c _ items
    simp only [constantsPass, inside elements items]
    rfl
  · intro keys elements c _ key value
    simp only [constantsPass, inside keys key, inside elements value]
    rfl

private theorem statementsPass_quiet (schema : Schema) : (statementsPass schema).Quiet where
  message c missing value := by
    simp only [statementsPass, messageStatements, missing, Shape.single?_any value]
    rfl
  repeated elements c value _ := by
    simp only [statementsPass, repeatedStatements, Shape.element?_any value, Bool.and_false]
    rfl
  map keys elements c value _ _ := by
    simp only [statementsPass, mapStatements, Shape.element?_any value, Bool.and_false]
    rfl

end Java

namespace Rust

private theorem checksPass_quiet (schema : Schema) (package : String) :
    (checksPass schema package).Quiet where
  message c missing value := by
    simp only [checksPass, messageTokens, missing, Shape.single?_any value]
    rfl
  repeated elements c value _ := by
    simp only [checksPass, repeatedTokens, Shape.element?_any value, Bool.and_false]
    rfl
  map keys elements c value _ _ := by
    simp only [checksPass, mapTokens, Shape.element?_any value, Bool.and_false]
    rfl

end Rust

private theorem forM_filter {ε α : Type} {keep : α → Bool} {f : α → Except ε Unit}
    (skipped : ∀ x, keep x = false → f x = .ok ()) (xs : List α) :
    (xs.filter keep).forM f = xs.forM f := by
  induction xs with
  | nil => rfl
  | cons x xs ih =>
      rw [List.forM_eq_forM] at ih ⊢
      cases kept : keep x with
      | true => rw [List.filter_cons_of_pos kept, List.forM_cons, List.forM_cons, ih]
      | false =>
          rw [List.filter_cons_of_neg (Bool.eq_false_iff.mp kept), List.forM_cons, skipped x kept,
            ok_bind, ih]

private theorem concatM_filter {α β : Type} {keep : α → Bool} {f : α → Rendered (List β)}
    (skipped : ∀ x, keep x = false → f x = .ok []) (xs : List α) :
    concatM f (xs.filter keep) = concatM f xs := by
  induction xs with
  | nil => rfl
  | cons x xs ih =>
      cases kept : keep x with
      | true => rw [List.filter_cons_of_pos kept, concatM, concatM, ih]
      | false =>
          rw [List.filter_cons_of_neg (Bool.eq_false_iff.mp kept), concatM, skipped x kept, ok_bind,
            ih]
          cases concatM f xs <;> rfl

def Message.bare (m : Message) : Message :=
  { m with fields := m.fields.filter (!·.isSilent) }

variable {s t : Schema} {m : Message}

private theorem checkField_of_isSilent {field : Field} (silent : field.isSilent = true) :
    checkField s field = .ok () := by
  rw [checkField, Field.rules_of_isSilent silent]
  rfl

private theorem checkDeclarations_bare : checkDeclarations s m.bare = checkDeclarations s m := by
  have fields : m.bare.fields.forM (fun field => (checkField s field).within field.name) =
      m.fields.forM fun field => (checkField s field).within field.name := by
    refine forM_filter (fun field dropped => ?_) m.fields
    rw [checkField_of_isSilent (by simpa using dropped)]
    rfl
  rw [checkDeclarations, fields]
  rfl

namespace Message

private theorem plainFields_bare : m.bare.plainFields = m.plainFields.filter (!·.isSilent) := by
  simp only [plainFields, bare, List.filter_filter, Bool.and_comm]

/-- A silent field is a member of no oneof. -/
private theorem oneofFields_bare : m.bare.oneofFields = m.oneofFields := by
  funext oneof
  simp only [oneofFields, bare, List.filter_filter]
  refine List.filter_congr fun field _ => ?_
  cases silent : field.isSilent with
  | true => simp [(Field.isSilent_iff.mp silent).2.1]
  | false => simp

private theorem ofField_of_isSilent {base : Option ErrorBase} (readable : m.errorBase = .ok base)
    {field : Field} (silent : field.isSilent = true) :
    ∃ c, ProjectionError.render (Context.ofField m field) = .ok c ∧ c.Undeclared ∧
      c.shape.value.isPlainMessage = false := by
  have written : ∃ c, Context.ofField m field = .ok c := by
    simp only [Context.ofField, readable, Field.rules_of_isSilent silent]
    exact ⟨_, rfl⟩
  obtain ⟨c, written⟩ := written
  exact ⟨c, ProjectionError.render_eq_ok_iff.mpr written,
    Context.undeclared_of_ofField silent written⟩

end Message

namespace Java

private theorem ofPlainFields_filter {base : Option ErrorBase} (readable : m.errorBase = .ok base)
    (fields : List Field) : ClassBody.ofPlainFields s m (fields.filter (!·.isSilent)) =
      ClassBody.ofPlainFields s m fields := by
  induction fields with
  | nil => rfl
  | cons field fields ih =>
      cases silent : field.isSilent with
      | false =>
          rw [List.filter_cons_of_pos (by rw [silent]; rfl), ClassBody.ofPlainFields,
            ClassBody.ofPlainFields, ih]
      | true =>
          obtain ⟨c, written, undeclared, value⟩ := Message.ofField_of_isSilent readable silent
          rw [List.filter_cons_of_neg (by rw [silent]; exact Bool.false_ne_true), ih,
            ClassBody.ofPlainFields, written, ok_bind,
            (constantsPass_quiet s).render_eq_nil undeclared value, ok_bind,
            (statementsPass_quiet s).render_eq_nil undeclared value, ok_bind]
          cases ClassBody.ofPlainFields s m fields <;> rfl

private theorem ofMessage_bare {base : Option ErrorBase} (readable : m.errorBase = .ok base) :
    ClassBody.ofMessage s m.bare = ClassBody.ofMessage s m := by
  have constants : ClassBody.oneofConstants s m.bare = ClassBody.oneofConstants s m := by
    funext oneof
    rw [ClassBody.oneofConstants, ClassBody.oneofConstants, Message.oneofFields_bare]
    rfl
  have switch : ClassBody.oneofSwitch s m.bare = ClassBody.oneofSwitch s m := by
    funext oneof
    rw [ClassBody.oneofSwitch, ClassBody.oneofSwitch, Message.oneofFields_bare]
    rfl
  have oneofs : ClassBody.ofOneofs s m.bare = ClassBody.ofOneofs s m := by
    funext oneofs
    induction oneofs with
    | nil => rfl
    | cons oneof oneofs ih => rw [ClassBody.ofOneofs, ClassBody.ofOneofs, constants, switch, ih]
  have plain : ClassBody.ofPlainFields s m.bare = ClassBody.ofPlainFields s m := by
    funext fields
    induction fields with
    | nil => rfl
    | cons field fields ih =>
        rw [ClassBody.ofPlainFields, ClassBody.ofPlainFields, ih]
        rfl
  rw [ClassBody.ofMessage, ClassBody.ofMessage, Message.plainFields_bare, plain,
    ofPlainFields_filter readable, oneofs]
  rfl

end Java

namespace Rust

private theorem bodyTokens_bare (package : String)
    (readable : m.isDisabled = .ok false → ∃ base, m.errorBase = .ok base) :
    bodyTokens s package m.bare = bodyTokens s package m := by
  rw [bodyTokens, bodyTokens]
  refine bind_congr_ok fun disabled flag => ?_
  cases disabled with
  | true => rfl
  | false =>
      obtain ⟨base, readable⟩ := readable (SchemaError.render_eq_ok_iff.mp flag)
      have skipped : ∀ field : Field, (!field.isSilent) = false →
          plainField s package m field = .ok [] := by
        intro field dropped
        obtain ⟨c, written, undeclared, value⟩ :=
          Message.ofField_of_isSilent readable (by simpa using dropped)
        rw [plainField, written, ok_bind]
        exact (checksPass_quiet s package).render_eq_nil undeclared value
      have oneofs : oneofMatch s package m.bare = oneofMatch s package m := by
        funext oneof
        rw [oneofMatch, oneofMatch, Message.oneofFields_bare]
        rfl
      have plain : plainField s package m.bare = plainField s package m := rfl
      have kept := concatM_filter skipped m.plainFields
      rw [Message.plainFields_bare, oneofs, plain, if_neg Bool.false_ne_true, kept]
      rfl

end Rust

private theorem Message.bare_interchangeable (same : s.SameOutlines t) (m : Message) :
    m.bare.Interchangeable s t m := by
  have declarations : checkDeclarations s m.bare = checkDeclarations t m := by
    rw [checkDeclarations_eq same.enumeration, checkDeclarations_bare]
  refine ⟨rfl, declarations, fun passed => ?_⟩
  obtain ⟨disabled, flag, accepted⟩ := checkDeclarations_eq_ok_iff.mp passed
  have readable : m.isDisabled = .ok false → ∃ base, m.errorBase = .ok base := by
    intro enabled
    exact (accepted (Except.ok.inj (flag.symm.trans enabled))).readable
  refine ⟨rfl, rfl, rfl, fun enabled => ?_, fun package => ?_⟩
  · obtain ⟨base, readable⟩ := readable enabled
    rw [Java.ofMessage_eq same, Java.ofMessage_bare readable]
  · rw [Rust.bodyTokens_eq same, Rust.bodyTokens_bare package readable]

def File.bare (f : File) : File :=
  { f with messages := f.messages.map Message.bare }

def Request.bare (r : Request) : Request :=
  { r with files := r.files.map File.bare }

private theorem File.bare_sameOutline (f : File) : f.bare.SameOutline f := by
  refine ⟨rfl, rfl, rfl, rfl, ?_⟩
  rw [bare, List.map_map]
  rfl

private theorem Request.bare_sameOutlines (r : Request) :
    (Schema.ofFiles r.bare.files).SameOutlines (Schema.ofFiles r.files) :=
  Schema.sameOutlines_ofFiles
    (List.forall₂_map_left_iff.mpr (List.forall₂_same.mpr fun f _ => f.bare_sameOutline))

/-- Silent fields make no difference to a run. -/
private theorem generate_bare (formatters : Formatters) (request : Request) (config : Config) :
    generate formatters request.bare config = generate formatters request config := by
  have same := request.bare_sameOutlines
  refine generate_congr formatters config rfl ?_
  refine List.forall₂_map_left_iff.mpr (List.forall₂_same.mpr fun f _ => ⟨f.bare_sameOutline, ?_⟩)
  exact List.forall₂_map_left_iff.mpr (List.forall₂_same.mpr fun m _ => m.bare_interchangeable same)

def Request.modifyMessage (r : Request) (file message : Nat) (change : Message → Message) :
    Request :=
  { r with files := r.files.modify file fun f =>
      { f with messages := f.messages.modify message change } }

/-- A message with one more field, at the given position if it has that many. -/
def Message.insertField (m : Message) (position : Nat) (field : Field) : Message :=
  { m with fields := m.fields.insertIdx position field }

private theorem filter_insertIdx {α : Type} {keep : α → Bool} {x : α} (dropped : keep x = false)
    (xs : List α) (i : Nat) : (xs.insertIdx i x).filter keep = xs.filter keep := by
  induction xs generalizing i with
  | nil => cases i <;> simp [dropped]
  | cons first rest ih =>
      cases i with
      | zero => simp [dropped]
      | succ i => rw [List.insertIdx_succ_cons, List.filter_cons, List.filter_cons, ih]

private theorem map_modify {α β : Type} {f : α → β} {change : α → α}
    (kept : ∀ x, f (change x) = f x)
    (xs : List α) (i : Nat) : (xs.modify i change).map f = xs.map f := by
  induction xs generalizing i with
  | nil => rw [List.modify_nil]
  | cons first rest ih =>
      cases i with
      | zero => rw [List.modify_zero_cons, List.map_cons, List.map_cons, kept]
      | succ i => rw [List.modify_succ_cons, List.map_cons, List.map_cons, ih]

private theorem Message.bare_insertField {field : Field} (silent : field.isSilent = true)
    (position : Nat) (m : Message) : (m.insertField position field).bare = m.bare := by
  have fields : (m.fields.insertIdx position field).filter (!·.isSilent) =
      m.fields.filter (!·.isSilent) :=
    filter_insertIdx (by simp only [silent, Bool.not_true]) m.fields position
  exact congrArg (fun fields => { m with fields }) fields

private theorem Request.bare_modifyMessage {change : Message → Message}
    (kept : ∀ m, (change m).bare = m.bare) (r : Request) (file message : Nat) :
    (r.modifyMessage file message change).bare = r.bare := by
  have files : ∀ f : File, File.bare { f with messages := f.messages.modify message change } =
      f.bare := by
    intro f
    simp only [File.bare, map_modify kept]
  rw [bare, bare, modifyMessage]
  simp only [map_modify files]

/-- A silent field may be added to any message at any position without a difference to a run. -/
theorem generate_insertField (formatters : Formatters) (request : Request) (config : Config)
    (file message position : Nat) {field : Field} (silent : field.isSilent = true) :
    generate formatters (request.modifyMessage file message (·.insertField position field)) config =
      generate formatters request config := by
  have same := Request.bare_modifyMessage (Message.bare_insertField silent position) request file
    message
  rw [← generate_bare, same, generate_bare]

def parcel : Message where
  name := "Parcel"
  fields := [(Field.withRules { name := "code", shape := .single (.scalar .string) }
    (.obj [("string", .obj [("rules", .arr [.obj [("max_len", .int 8),
      ("error", .obj [("method", .str "longCode")])]])])]))]

def parcelRequest : Request where
  files := [{ name := "parcel.proto", messages := [parcel] }]

def stopTimes : Field where
  name := "stops"
  shape := .map (.scalar .string) (.message "google.protobuf.Timestamp")

theorem stopTimes_inserted :
    stopTimes.isSilent = true ∧
      generate (fun _ => none) (parcelRequest.modifyMessage 0 0 (·.insertField 1 stopTimes))
          { lang := "java" } =
        generate (fun _ => none) parcelRequest { lang := "java" } := by
  have silent : stopTimes.isSilent = true := by decide
  exact ⟨silent, generate_insertField (fun _ => none) parcelRequest { lang := "java" } 0 0 1 silent⟩

end ProtoRules
