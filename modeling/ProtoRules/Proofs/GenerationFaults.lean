import ProtoRules.Plugin.Generate
import ProtoRules.Proofs.JavaClasses
import ProtoRules.Proofs.JavaFaults
import ProtoRules.Proofs.RustFaults

/-!
Faults of runs. Whatever a request asks for, a run that gets as far as writing validators is past
all faults in rules: what is left are types that cannot be found, names that the language does not
take, and a flag that cannot be read.
-/

namespace ProtoRules

/-- One of the messages holds something that cannot be read as a flag where it says whether it is
ignored. -/
def UnreadableIgnored (ms : List Message) (e : SchemaError) : Prop :=
  ∃ m ∈ ms, ∃ payload, m.extensions.raw? Extensions.ignoredKey = some payload ∧
    Json.flag? payload = none ∧
    e = .malformedExtension Extensions.ignoredKey (.unreadable Extensions.ignoredKey payload)

/-- What a file can be refused for before any of it is written. -/
def UnreadableFlag (file : File) (e : RenderError) : Prop :=
  ∃ cause, e = .schema cause ∧ UnreadableIgnored file.messages cause

theorem UnreadableIgnored.mono {ms others : List Message} {e : SchemaError}
    (unreadable : UnreadableIgnored ms e) (all : ∀ m ∈ ms, m ∈ others) :
    UnreadableIgnored others e := by
  obtain ⟨m, member, found⟩ := unreadable
  exact ⟨m, all m member, found⟩

private theorem isIgnored_faultsWithin (m : Message) :
    FaultsWithin (UnreadableIgnored [m]) m.isIgnored := by
  refine .bind ?_ fun _ _ => .pure _
  unfold Extensions.get
  split
  · exact .ok _
  · rename_i payload found
    split
    · exact .ok _
    · rename_i unread
      exact .error ⟨m, List.mem_cons_self, payload, found, unread, rfl⟩

private theorem validated_faultsWithin (ms : List Message) :
    FaultsWithin (UnreadableIgnored ms) (OutputUnit.validated ms) := by
  induction ms with
  | nil => exact .ok _
  | cons m ms ih =>
      have first : FaultsWithin (UnreadableIgnored (m :: ms)) m.isIgnored :=
        (isIgnored_faultsWithin m).mono fun _ e =>
          e.mono fun _ only => List.mem_singleton.mp only ▸ List.mem_cons_self
      refine .bind first fun _ _ => .bind (ih.mono fun _ e => ?_) fun _ _ => .pure _
      exact e.mono fun _ member => List.mem_cons_of_mem m member

private theorem topLevelUnits_faultsWithin (file : File) (tops : List Message) :
    FaultsWithin (UnreadableIgnored file.messages) (Java.topLevelUnits file tops) := by
  induction tops with
  | nil => exact .ok _
  | cons top tops ih =>
      refine .bind ((validated_faultsWithin _).mono fun _ e => ?_) fun _ _ => ?_
      · exact e.mono fun _ member => (List.mem_filter.mp member).1
      · exact .bind ih fun _ _ => .pure _

theorem units_faultsWithin (l : Language) (file : File) :
    FaultsWithin (UnreadableFlag file) (l.units file) := by
  have lift : ∀ {read : Except SchemaError (List OutputUnit)},
      FaultsWithin (UnreadableIgnored file.messages) read →
        FaultsWithin (UnreadableFlag file) (SchemaError.render read) := by
    intro read within
    cases read with
    | error e => exact .error ⟨e, rfl, within e rfl⟩
    | ok units => exact .ok _
  cases l with
  | java =>
      refine lift (.ite (fun _ => topLevelUnits_faultsWithin _ _) fun _ => ?_)
      exact .bind (validated_faultsWithin _) fun _ _ => .pure _
  | rust => exact lift (.bind (validated_faultsWithin _) fun _ _ => .pure _)

private theorem mem_of_mem_units {l : Language} {file : File} {units : List OutputUnit}
    (written : l.units file = .ok units) :
    ∀ unit ∈ units, ∀ m ∈ unit.messages, m ∈ file.messages := by
  have whole : ∀ {messages : List Message} {unit : OutputUnit},
      OutputUnit.validated file.messages = .ok messages → unit.messages = messages →
        ∀ other ∈ [unit], ∀ m ∈ other.messages, m ∈ file.messages := by
    intro messages unit read rfl other member
    rw [List.mem_singleton.mp member]
    exact fun m kept => ((OutputUnit.mem_validated_iff read).mp kept).1
  cases l with
  | java =>
      have written : Java.units file = .ok units := SchemaError.render_eq_ok_iff.mp written
      unfold Java.units at written
      split at written
      · intro unit member m kept
        obtain ⟨_, _, messages, read, rfl⟩ := Java.topLevelUnits_mem written unit member
        have related := ((OutputUnit.mem_validated_iff read).mp kept).1
        exact (List.mem_filter.mp related).1
      · simp only [bind_eq_ok_iff, pure_eq_ok_iff] at written
        obtain ⟨messages, read, rfl⟩ := written
        exact whole read rfl
  | rust =>
      have written : Rust.units file = .ok units := SchemaError.render_eq_ok_iff.mp written
      simp only [Rust.units, bind_eq_ok_iff, pure_eq_ok_iff] at written
      obtain ⟨messages, read, rfl⟩ := written
      exact whole read rfl

theorem renderUnit_faultsWithin {l : Language} {schema : Schema} {file : File}
    (accepted : checkFile schema file = .ok ()) {unit : OutputUnit}
    (members : ∀ m ∈ unit.messages, m ∈ file.messages) :
    FaultsWithin (WriteFault l) (l.renderUnit schema unit) := by
  cases l with
  | java => exact Java.renderUnit_faultsWithin accepted members
  | rust => exact Rust.renderUnit_faultsWithin accepted members

/-- Faults of rules that come up only when they are written. -/
def RenderError.IsRuleFault : RenderError → Prop
  | .missingError _ => True
  | .projection _ => True
  | .temporal _ => True
  | _ => False

namespace Generate

def PastRules (e : GenerateError) : Prop :=
  ∀ r, e = .render r → ¬ r.IsRuleFault

variable {α : Type} {s : Settings} {schema : Schema}

private theorem liftRender_faultsWithin {x : Rendered α}
    (within : FaultsWithin (¬ ·.IsRuleFault) x) :
    FaultsWithin PastRules (liftRender x) := by
  cases x with
  | ok a => exact .ok a
  | error e =>
      refine .error fun r same => ?_
      cases same
      exact within e rfl

private theorem liftCheck_faultsWithin (v : Verdict) : FaultsWithin PastRules (liftCheck v) := by
  cases v with
  | ok a => exact .ok a
  | error e => exact .error fun r same => by cases same

private theorem liftConfig_faultsWithin (x : Except ConfigError α) :
    FaultsWithin PastRules (liftConfig x) := by
  cases x with
  | ok a => exact .ok a
  | error e => exact .error fun r same => by cases same

private theorem liftSchema_faultsWithin (x : Except SchemaError α) :
    FaultsWithin PastRules (liftSchema x) := by
  cases x with
  | ok a => exact .ok a
  | error e => exact .error fun r same => by cases same

private theorem namedFiles_faultsWithin (schema : Schema) (names : List String) :
    FaultsWithin PastRules (namedFiles schema names) := by
  induction names with
  | nil => exact .ok _
  | cons name names ih =>
      unfold namedFiles
      split
      · exact .error fun r same => by cases same
      · exact .bind ih fun _ _ => .pure _

private theorem stripModule_faultsWithin (module : Option String) (path : String) :
    FaultsWithin PastRules (stripModule module path) := by
  unfold stripModule
  split
  · exact .ok _
  · split
    · exact .ok _
    · exact .error fun r same => by cases same

private theorem checkFlags_faultsWithin (ms : List Message) :
    FaultsWithin PastRules (checkFlags ms) := by
  induction ms with
  | nil => exact .ok _
  | cons m ms ih => exact .bind (liftSchema_faultsWithin _).discard fun _ _ => ih

private theorem not_isRuleFault_of_writeFault {l : Language} {e : RenderError}
    (fault : WriteFault l e) :
    ¬ e.IsRuleFault := by
  cases fault <;> exact id

private theorem unitArtifacts_faultsWithin {file : File} (accepted : checkFile schema file = .ok ())
    {units : List OutputUnit} (members : ∀ unit ∈ units, ∀ m ∈ unit.messages, m ∈ file.messages) :
    FaultsWithin PastRules (unitArtifacts s schema units) := by
  induction units with
  | nil => exact .ok _
  | cons unit units ih =>
      obtain ⟨first, rest⟩ := List.forall_mem_cons.mp members
      have content : FaultsWithin PastRules (liftRender (s.language.renderUnit schema unit)) :=
        liftRender_faultsWithin ((renderUnit_faultsWithin accepted first).mono
          fun _ => not_isRuleFault_of_writeFault)
      refine .bind (.bind content fun _ _ => ?_) fun _ _ => ?_
      · exact .bind (stripModule_faultsWithin _ _) fun _ _ => .pure _
      · exact .bind (ih rest) fun _ _ => .pure _

private theorem fileArtifacts_faultsWithin (s : Settings) (schema : Schema) (file : File) :
    FaultsWithin PastRules (fileArtifacts s schema file) := by
  refine .bind (liftCheck_faultsWithin _) fun _ passed => ?_
  have accepted : checkFile schema file = .ok () := by
    cases verdict : checkFile schema file with
    | ok _ => rfl
    | error e => rw [verdict] at passed; cases passed
  refine .bind (checkFlags_faultsWithin _) fun _ _ => ?_
  refine .bind ?_ fun units written => ?_
  · refine liftRender_faultsWithin ((units_faultsWithin _ _).mono ?_)
    rintro _ ⟨cause, rfl, _⟩
    exact id
  · have written : s.language.units file = .ok units := by
      cases read : s.language.units file with
      | ok _ => rw [read] at written; cases written; rfl
      | error e => rw [read] at written; cases written
    exact unitArtifacts_faultsWithin accepted (mem_of_mem_units written)

private theorem filesArtifacts_faultsWithin (s : Settings) (schema : Schema) (files : List File) :
    FaultsWithin PastRules (filesArtifacts s schema files) := by
  induction files with
  | nil => exact .ok _
  | cons file files ih =>
      refine .bind (fileArtifacts_faultsWithin s schema file) fun _ _ => ?_
      exact .bind ih fun _ _ => .pure _

end Generate

/-- A run never fails because of rules once their check is passed: every failing check has an error
to raise, every position is reached, and every literal is valid. Of an accepted file, whatever the
other files are, all that can fail is a flag that cannot be read, a type that cannot be found, and
in Rust a name that is none. -/
theorem generate_never_fails_on_accepted_rules :
    (∀ (formatters : Formatters) (request : Request) (config : Config) (e : RenderError),
      generate formatters request config = .error (.render e) → ¬ e.IsRuleFault) ∧
    ∀ (l : Language) (schema : Schema) (file : File), checkFile schema file = .ok () →
      FaultsWithin (UnreadableFlag file) (l.units file) ∧
      ∀ units, l.units file = .ok units → ∀ unit ∈ units,
        FaultsWithin (WriteFault l) (l.renderUnit schema unit) := by
  constructor
  · intro formatters request config e failed
    have within : FaultsWithin Generate.PastRules (generate formatters request config) := by
      refine .bind (Generate.liftConfig_faultsWithin _) fun _ _ => ?_
      refine .bind (.ite (fun _ => .ok _) fun _ => Generate.namedFiles_faultsWithin _ _) ?_
      intro files _
      exact Generate.filesArtifacts_faultsWithin _ _ files
    exact within _ failed e rfl
  · intro l schema file accepted
    refine ⟨units_faultsWithin l file, fun units written unit member => ?_⟩
    exact renderUnit_faultsWithin accepted (mem_of_mem_units written unit member)

/-- A file with rules for the items of a list, and with rules for an enum that is nowhere declared.
-/
def palette : File where
  name := "palette.proto"
  options := { javaOuterClassname := some "Palettes" }
  messages := [{
    name := "Palette"
    fields := [
      { name := "tags"
        shape := .repeated (.scalar .string)
        extensions := Extensions.insert {} rulesKey (.obj [("repeated", .obj [("rules", .arr [.obj [
          ("items", .obj [("string", .obj [("rules", .arr [.obj [("min_len", .int 1)]])])]),
          ("error", .obj [("method", .str "badTag")])]])])]) },
      { name := "tint"
        shape := .single (.enum "Color")
        extensions := Extensions.insert {} rulesKey (.obj [("enum", .obj [("rules", .arr [.obj [
          ("in", .arr [.int 1]), ("error", .obj [("method", .str "badTint")])]])])]) }] }]

theorem palette_fails_on_missing_enum :
    generate (fun _ => none) { files := [palette] } { lang := "java" } =
        .error (.render (.schema (.unknownEnum "Color"))) ∧
      ¬ (RenderError.schema (.unknownEnum "Color")).IsRuleFault ∧
      checkFile (Schema.ofFiles [palette]) palette = .ok () ∧
      Language.units .java palette =
        .ok [Java.validatorFile palette palette.messages "Palettes"] ∧
      FaultsWithin (WriteFault .java) (Language.renderUnit .java (Schema.ofFiles [palette])
        (Java.validatorFile palette palette.messages "Palettes")) := by
  obtain ⟨runs, files⟩ := generate_never_fails_on_accepted_rules
  have failed : generate (fun _ => none) { files := [palette] } { lang := "java" } =
      .error (.render (.schema (.unknownEnum "Color"))) := rfl
  have accepted : checkFile (Schema.ofFiles [palette]) palette = .ok () := rfl
  have units : Language.units .java palette =
      .ok [Java.validatorFile palette palette.messages "Palettes"] := rfl
  refine ⟨failed, runs _ _ _ _ failed, accepted, units, ?_⟩
  exact (files .java (Schema.ofFiles [palette]) palette accepted).2 _ units _ List.mem_cons_self

end ProtoRules
