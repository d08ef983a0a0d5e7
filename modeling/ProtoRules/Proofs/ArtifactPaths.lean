import Mathlib.Data.List.Induction
import Mathlib.Data.List.Nodup
import Mathlib.Data.List.Pairwise
import ProtoRules.Proofs.JavaUnits
import ProtoRules.Proofs.Runs

/-!
Paths of artifacts. The path of an artifact is made of the directory of a package and of the name of
a file or a class, and nothing of the directory that its file is in is left. So two files may claim
one path, but the paths of the artifacts of one file are always different.
-/

namespace ProtoRules

private theorem File.not_mem_stem (file : File) : '/' ∉ file.stem.toList := by
  have base := Text.not_mem_lastPiece '/' file.name
  rw [File.stem]
  cases cut : Text.before? ".proto" (Text.lastPiece '/' file.name) with
  | none => exact base
  | some rest =>
      rw [Text.before?_eq_some_iff.mp cut, String.toList_append, List.mem_append] at base
      exact fun member => base (.inl member)

/-- Directories are empty or end in a slash. -/
private theorem OutputUnit.getLast?_directory (package : String) :
    ∀ c ∈ (directory package).toList.getLast?, c = '/' := by
  rw [directory, String.toList_join]
  generalize (Text.splitOn '.' package).filter (!·.isEmpty) = segments
  induction segments using List.reverseRecOn with
  | nil => simp
  | append_singleton segments segment _ => simp

private theorem append_eq_append_iff_of_slash {d e a b : List Char}
    (dEnds : ∀ c ∈ d.getLast?, c = '/') (eEnds : ∀ c ∈ e.getLast?, c = '/') (aFree : '/' ∉ a)
    (bFree : '/' ∉ b) : d ++ a = e ++ b ↔ d = e ∧ a = b := by
  have noMore : ∀ {xs front rest : List Char}, (∀ c ∈ (front ++ xs).getLast?, c = '/') →
      '/' ∉ xs ++ rest → xs = [] := by
    intro xs front rest ends free
    cases last : xs.getLast? with
    | none => exact List.getLast?_eq_none_iff.mp last
    | some c =>
        have slash : c = '/' := ends c (by simp [List.getLast?_append, last])
        have inside : '/' ∈ xs := slash ▸ List.mem_of_getLast? last
        exact absurd (List.mem_append_left rest inside) free
  constructor
  · intro same
    rcases List.append_eq_append_iff.mp same with ⟨more, rfl, rfl⟩ | ⟨more, rfl, rfl⟩
    · simp [noMore eEnds aFree]
    · simp [noMore dEnds bFree]
  · rintro ⟨rfl, rfl⟩
    rfl

/-- The names that the classes of a file go by: those of the top-level messages that have a unit, if
files are split, else that of the outer class. -/
def Java.owners (file : File) : List String :=
  if file.options.javaMultipleFiles then (unitRoots file).map Message.name else [outerClass file]

namespace Language

/-- The paths that a file claims. -/
def places : Language → File → List String
  | java, file => (Java.owners file).map fun owner =>
      OutputUnit.directory (Java.package file) ++ (owner ++ "Validator") ++ ".java"
  | rust, file => [OutputUnit.directory file.package ++ file.stem ++ ".validate.rs"]

/-- Whether two files claim one path. -/
def SharePath : Language → File → File → Prop
  | java, f, g => ∃ a ∈ Java.owners f, ∃ b ∈ Java.owners g,
      OutputUnit.directory (Java.package f) ++ a = OutputUnit.directory (Java.package g) ++ b
  | rust, f, g => OutputUnit.directory f.package = OutputUnit.directory g.package ∧ f.stem = g.stem

instance (l : Language) (f g : File) : Decidable (l.SharePath f g) :=
  match l with
  | java => inferInstanceAs (Decidable (∃ a ∈ Java.owners f, ∃ b ∈ Java.owners g,
      OutputUnit.directory (Java.package f) ++ a = OutputUnit.directory (Java.package g) ++ b))
  | rust => inferInstanceAs (Decidable (_ ∧ _))

theorem disjoint_places_iff {l : Language} {f g : File} :
    (l.places f).Disjoint (l.places g) ↔ ¬ l.SharePath f g := by
  cases l with
  | java =>
      constructor
      · rintro apart ⟨a, aOwner, b, bOwner, same⟩
        refine apart (List.mem_map_of_mem aOwner) (List.mem_map.mpr ⟨b, bOwner, ?_⟩)
        rw [← String.append_assoc, ← String.append_assoc, same]
      · intro apart path inFirst inSecond
        obtain ⟨a, aOwner, rfl⟩ := List.mem_map.mp inFirst
        obtain ⟨b, bOwner, same⟩ := List.mem_map.mp inSecond
        simp only [← String.append_assoc, String.append_left_inj] at same
        exact apart ⟨a, aOwner, b, bOwner, same.symm⟩
  | rust =>
      rw [places, places, List.disjoint_singleton, List.mem_singleton, eq_comm,
        String.append_left_inj, SharePath, ← String.toList_inj, String.toList_append,
        String.toList_append,
        append_eq_append_iff_of_slash (OutputUnit.getLast?_directory _)
          (OutputUnit.getLast?_directory _) f.not_mem_stem g.not_mem_stem,
        String.toList_inj, String.toList_inj]

private theorem places_nodup (l : Language) {file : File}
    (nodup : (file.messages.map Message.name).Nodup) :
    (l.places file).Nodup := by
  cases l with
  | java =>
      refine List.Nodup.map (fun a b same => ?_) ?_
      · simpa [← String.append_assoc] using same
      · rw [Java.owners]
        split
        · exact nodup.sublist ((Java.unitRoots_sublist file).map Message.name)
        · exact List.nodup_singleton _
  | rust => exact List.nodup_singleton _

private theorem paths_eq_places {l : Language} {file : File} {units : List OutputUnit}
    (split : l.units file = .ok units) : units.map OutputUnit.path = l.places file := by
  cases l with
  | java =>
      have split : Java.units file = .ok units := SchemaError.render_eq_ok_iff.mp split
      rw [places, Java.owners]
      unfold Java.units at split
      split at split
      · rename_i multiple
        rw [Java.topLevelUnits_eq (fun top member => (List.mem_filter.mp member).2)
          (Java.flags_of_topLevelUnits split)] at split
        obtain rfl := Except.ok.inj split
        rw [if_pos multiple, List.map_map, List.map_map]
        rfl
      · rename_i single
        simp only [bind_eq_ok_iff, pure_eq_ok_iff] at split
        obtain ⟨messages, _, rfl⟩ := split
        rw [if_neg single]
        rfl
  | rust =>
      have split : Rust.units file = .ok units := SchemaError.render_eq_ok_iff.mp split
      simp only [Rust.units, bind_eq_ok_iff, pure_eq_ok_iff] at split
      obtain ⟨messages, _, rfl⟩ := split
      rfl

end Language

namespace Generate

variable {s : Settings} {schema : Schema}

/-- What all paths of a run begin with before they are taken relative to the module. -/
def moduleStart (module : Option String) : String :=
  match moduleDirectory? module with
  | none => ""
  | some directory => directory ++ "/"

theorem stripModule_eq_ok_iff {module : Option String} {path rest : String} :
    stripModule module path = .ok rest ↔ path = moduleStart module ++ rest := by
  rw [stripModule, moduleStart]
  cases moduleDirectory? module with
  | none => simp
  | some directory =>
      rw [← Text.after?_eq_some_iff]
      dsimp only
      cases Text.after? (directory ++ "/") path <;> simp

private theorem paths_of_unitArtifacts {units : List OutputUnit} {artifacts : List Artifact}
    (written : unitArtifacts s schema units = .ok artifacts) :
    units.map OutputUnit.path = artifacts.map fun a => moduleStart s.module ++ a.path := by
  induction units generalizing artifacts with
  | nil =>
      cases written
      rfl
  | cons unit units ih =>
      simp only [unitArtifacts, unitArtifact, bind_eq_ok_iff, pure_eq_ok_iff] at written
      obtain ⟨_, ⟨content, _, path, stripped, rfl⟩, rest, later, rfl⟩ := written
      rw [List.map_cons, List.map_cons, ih later, stripModule_eq_ok_iff.mp stripped]

private theorem paths_of_filesArtifacts {files : List File} {artifacts : List Artifact}
    (written : filesArtifacts s schema files = .ok artifacts) :
    (artifacts.map fun a => moduleStart s.module ++ a.path) = files.flatMap s.language.places := by
  induction files generalizing artifacts with
  | nil =>
      cases written
      rfl
  | cons file files ih =>
      simp only [filesArtifacts, bind_eq_ok_iff, pure_eq_ok_iff] at written
      obtain ⟨part, ran, rest, later, rfl⟩ := written
      obtain ⟨units, split, run⟩ := units_of_fileArtifacts ran
      rw [List.map_append, ih later, ← paths_of_unitArtifacts run, Language.paths_eq_places split,
        List.flatMap_cons]

theorem liftConfig_eq_ok_iff {α : Type} {x : Except ConfigError α} {a : α} :
    liftConfig x = .ok a ↔ x = .ok a := by
  cases x <;> simp [liftConfig]

end Generate

open Generate

/-- The files that a request asks for: all of them, if it names none. -/
def Request.generatedFiles (request : Request) : List File :=
  if request.filesToGenerate.isEmpty then request.files
  else request.filesToGenerate.filterMap fun name => request.files.find? (·.name == name)

theorem generatedFiles_eq_of_selected {request : Request} {files : List File}
    (chosen : selected (.ofFiles request.files) request.filesToGenerate = .ok files) :
    files = request.generatedFiles := by
  unfold selected at chosen
  rw [Request.generatedFiles]
  split at chosen
  · cases chosen
    rw [if_pos ‹_›]
    rfl
  · rw [namedFiles_eq] at chosen
    split at chosen
    · cases chosen
    · cases chosen
      rw [if_neg ‹_›]
      rfl

namespace Request

variable {request : Request}

theorem generatedFiles_subset : request.generatedFiles ⊆ request.files := by
  rw [generatedFiles]
  split
  · exact List.Subset.refl _
  · intro file member
    obtain ⟨name, _, found⟩ := List.mem_filterMap.mp member
    exact List.mem_of_find?_eq_some found

private theorem generatedFiles_names_nodup (fileNames : (request.files.map File.name).Nodup)
    (asked : request.filesToGenerate.Nodup) : (request.generatedFiles.map File.name).Nodup := by
  rw [generatedFiles]
  split
  · exact fileNames
  · refine asked.sublist ?_
    clear asked
    induction request.filesToGenerate with
    | nil => exact List.Sublist.slnil
    | cons name names ih =>
        rw [List.filterMap_cons]
        cases found : request.files.find? (·.name == name) with
        | none => exact ih.cons name
        | some file =>
            have named := List.find?_some found
            rw [beq_iff_eq] at named
            rw [List.map_cons, named]
            exact ih.cons_cons name

end Request

def ledger (second : String) (multiple : Bool) (parameter : String) : Request where
  files := [
    { name := "acme/core/user.proto", package := "acme", messages := [{ name := "User" }] },
    { name := second, package := "acme", options := { javaMultipleFiles := multiple }
      messages := [{ name := "Account" }, { name := "Account.Owner" }] }]
  parameter := parameter

def splitLedger (parameter : String) : Request :=
  ledger "acme/bank/account.proto" true parameter

def twinLedger (parameter : String) : Request :=
  ledger "acme/bank/user.proto" false parameter

end ProtoRules
