import ProtoRules.Proofs.Interchange

/-!
What a run does not depend on: the bodies of messages in files that nothing is generated for, and
those of disabled messages. Two requests that differ there alone give the same artifacts or the same
fault.
-/

namespace ProtoRules

/-- Equal messages, or disabled ones of one name with the same flags. -/
inductive Message.Alike : Message → Message → Prop
  | refl (m : Message) : Alike m m
  | disabled {m n : Message} (name : m.name = n.name) (disabled : m.isDisabled = .ok true)
    (flags : ∀ key ∈ [Extensions.disabledKey, Extensions.ignoredKey],
      m.extensions.raw? key = n.extensions.raw? key) : Alike m n

namespace Message.Alike

variable {m n : Message}

private theorem name_eq (alike : m.Alike n) : m.name = n.name := by
  cases alike with
  | refl => rfl
  | disabled name => exact name

private theorem flag_eq (alike : m.Alike n) {key : String}
    (known : key ∈ [Extensions.disabledKey, Extensions.ignoredKey]) :
    m.extensions.flag key = n.extensions.flag key := by
  cases alike with
  | refl => rfl
  | disabled name disabled flags =>
      rw [Extensions.flag, Extensions.flag, Extensions.get, Extensions.get, flags key known]

private theorem isDisabled_eq (alike : m.Alike n) : m.isDisabled = n.isDisabled :=
  alike.flag_eq List.mem_cons_self

private theorem isIgnored_eq (alike : m.Alike n) : m.isIgnored = n.isIgnored :=
  alike.flag_eq (List.mem_cons_of_mem _ List.mem_cons_self)

theorem interchangeable {s t : Schema} (same : s.SameOutlines t) (alike : m.Alike n) :
    m.Interchangeable s t n := by
  have declarations : checkDeclarations s m = checkDeclarations t n := by
    rw [checkDeclarations_eq same.enumeration]
    cases alike with
    | refl => rfl
    | disabled name disabled flags =>
        have other := (Message.Alike.disabled name disabled flags).isDisabled_eq
        rw [checkDeclarations, checkDeclarations, ← other, disabled]
        rfl
  refine ⟨alike.name_eq, declarations, fun _ => ?_⟩
  refine ⟨alike.name_eq, alike.isIgnored_eq, alike.isDisabled_eq, ?_, fun package => ?_⟩
  · intro enabled
    rw [Java.ofMessage_eq same]
    cases alike with
    | refl => rfl
    | disabled name disabled flags => cases enabled.symm.trans disabled
  · rw [Rust.bodyTokens_eq same]
    cases alike with
    | refl => rfl
    | disabled name disabled flags =>
        have other := (Message.Alike.disabled name disabled flags).isDisabled_eq
        rw [Rust.bodyTokens, Rust.bodyTokens, ← other, disabled]
        rfl

end Message.Alike

structure File.Alike (f g : File) : Prop extends f.SameOutline g where
  alike : List.Forall₂ Message.Alike f.messages g.messages

theorem File.Alike.interchangeable {s t : Schema} {f g : File} (same : s.SameOutlines t)
    (alike : f.Alike g) : f.Interchangeable s t g :=
  ⟨alike.toSameOutline, alike.alike.imp fun _ _ related => related.interchangeable same⟩

namespace Request

/-- Whether the file at a position is generated for: any is if no names are given, else the first
of each name is. -/
def Selects (r : Request) (i : Nat) : Prop :=
  r.filesToGenerate = [] ∨
    ∃ name ∈ r.filesToGenerate, r.files.findIdx? (·.name == name) = some i

/-- Requests that differ at most in the bodies of messages of other files and in those of disabled
messages. -/
structure SameRelevant (r q : Request) : Prop where
  parameter : r.parameter = q.parameter
  filesToGenerate : r.filesToGenerate = q.filesToGenerate
  outlines : List.Forall₂ File.SameOutline r.files q.files
  bodies : ∀ (i : Nat) (f g : File), r.files[i]? = some f → q.files[i]? = some g → r.Selects i →
    List.Forall₂ Message.Alike f.messages g.messages

end Request

private theorem rel_find? {fs gs : List File} (outlines : List.Forall₂ File.SameOutline fs gs)
    {name : String} (bodies : ∀ (i : Nat) (f g : File), fs[i]? = some f → gs[i]? = some g →
      fs.findIdx? (·.name == name) = some i → List.Forall₂ Message.Alike f.messages g.messages) :
    Option.Rel File.Alike (fs.find? (·.name == name)) (gs.find? (·.name == name)) := by
  induction outlines with
  | nil => exact .none
  | @cons f g fs gs outline _ ih =>
      rw [List.find?_cons, List.find?_cons, ← outline.name]
      cases named : f.name == name with
      | true =>
          have found : (f :: fs).findIdx? (·.name == name) = some 0 := by
            rw [List.findIdx?_cons, named]
            rfl
          exact .some ⟨outline, bodies 0 f g rfl rfl found⟩
      | false =>
          refine ih fun i f' g' left right found => bodies (i + 1) f' g' left right ?_
          rw [List.findIdx?_cons, named, found]
          rfl

private theorem forall_alike {fs gs : List File} (outlines : List.Forall₂ File.SameOutline fs gs)
    (bodies : ∀ (i : Nat) (f g : File), fs[i]? = some f → gs[i]? = some g →
      List.Forall₂ Message.Alike f.messages g.messages) : List.Forall₂ File.Alike fs gs := by
  induction outlines with
  | nil => exact .nil
  | @cons f g fs gs outline _ ih =>
      exact .cons ⟨outline, bodies 0 f g rfl rfl⟩ (ih fun i => bodies (i + 1))

private theorem selected_congr {r q : Request} (same : r.SameRelevant q) :
    SameOutcome
      (List.Forall₂ (File.Interchangeable (Schema.ofFiles r.files) (Schema.ofFiles q.files)))
      (Generate.selected (Schema.ofFiles r.files) r.filesToGenerate)
      (Generate.selected (Schema.ofFiles q.files) q.filesToGenerate) := by
  have outlines := Schema.sameOutlines_ofFiles same.outlines
  refine SameOutcome.mono (R := List.Forall₂ File.Alike) ?_ fun _ _ files =>
    files.imp fun _ _ alike => alike.interchangeable outlines
  rw [← same.filesToGenerate]
  unfold Generate.selected
  cases names : r.filesToGenerate with
  | nil =>
      refine .ok (forall_alike same.outlines fun i f g left right => ?_)
      exact same.bodies i f g left right (.inl names)
  | cons name rest =>
      refine Generate.namedFiles_congr fun other member => ?_
      refine rel_find? same.outlines fun i f g left right found => ?_
      exact same.bodies i f g left right (.inr ⟨other, names ▸ member, found⟩)

/-- The outcome of a run, be it artifacts or a fault, is the same for requests that differ at most
in bodies that are irrelevant. -/
theorem execute_eq_of_sameRelevant (formatters : Formatters) {r q : Request}
    (same : r.SameRelevant q) : execute formatters r = execute formatters q := by
  have outlines := Schema.sameOutlines_ofFiles same.outlines
  rw [execute, execute, same.parameter]
  refine congrArg _ (funext fun config => ?_)
  rw [generate, generate]
  refine congrArg _ (funext fun language => ?_)
  exact (selected_congr same).bind_eq fun _ _ => Generate.filesArtifacts_congr outlines

/-! Requests with a disabled message and a file that is not asked for, each with the same fields. -/

def retired (fields : List Field) : Message where
  name := "Retired"
  fields := fields
  extensions := Extensions.insert {} Extensions.disabledKey (.bool true)

def inventory (fields : List Field) : File where
  name := "inventory.proto"
  messages := [{ name := "Item", fields := [{ name := "id", shape := .single (.scalar .string) }] },
    retired fields]

def archive (fields : List Field) : File where
  name := "archive.proto"
  messages := [{ name := "Entry", fields := fields }]

def inventoryRequest (fields : List Field) : Request where
  files := [inventory fields, archive fields]
  filesToGenerate := ["inventory.proto"]
  parameter := "lang=java"

/-- A field with rules for another type, which no checked message may have. -/
def mistyped : Field where
  name := "label"
  shape := .single (.scalar .string)
  extensions := Extensions.insert {} rulesKey (.obj [("bool", .obj [("const", .bool true)])])

private theorem inventoryRequest_sameRelevant :
    (inventoryRequest []).SameRelevant (inventoryRequest [mistyped]) where
  parameter := rfl
  filesToGenerate := rfl
  outlines := .cons ⟨rfl, rfl, rfl, rfl, rfl⟩ (.cons ⟨rfl, rfl, rfl, rfl, rfl⟩ .nil)
  bodies i f g left right selects := by
    have first : i = 0 := by
      rcases selects with none | ⟨name, member, found⟩
      · cases none
      · cases List.mem_singleton.mp member
        cases found
        rfl
    subst first
    cases left
    cases right
    exact .cons (.refl _) (.cons (.disabled rfl rfl fun _ _ => rfl) .nil)

theorem inventoryRequest_executed :
    (inventoryRequest []).SameRelevant (inventoryRequest [mistyped]) ∧
      execute (fun _ => none) (inventoryRequest []) =
        execute (fun _ => none) (inventoryRequest [mistyped]) :=
  ⟨inventoryRequest_sameRelevant,
    execute_eq_of_sameRelevant (fun _ => none) inventoryRequest_sameRelevant⟩

end ProtoRules
