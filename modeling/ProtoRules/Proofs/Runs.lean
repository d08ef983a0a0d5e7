import Mathlib.Data.List.Forall2
import Mathlib.Data.List.Nodup
import ProtoRules.Plugin.Generate
import ProtoRules.Proofs.CheckedContexts
import ProtoRules.Proofs.Texts

/-!
Runs file by file. A run is the row of the runs of its files, and the run of a file is the row of
its output units; the first step that fails decides what a row comes to.
-/

namespace ProtoRules

section Rows

variable {ε α β : Type}

/-- What steps in a row come to: the parts of all of them one after the other, or the fault of the
first step that fails. -/
def InOrder (Comes : α → Except ε (List β) → Prop) (xs : List α) : Except ε (List β) → Prop
  | .ok ys => ∃ parts, List.Forall₂ (fun x part => Comes x (.ok part)) xs parts ∧
      ys = parts.flatten
  | .error e => ∃ before x after, xs = before ++ x :: after ∧
      (∀ y ∈ before, ∃ part, Comes y (.ok part)) ∧ Comes x (.error e)

/-- Whether a function runs a step on the members of a list in a row. -/
structure Chains (step : α → Except ε (List β)) (run : List α → Except ε (List β)) : Prop where
  nil : run [] = .ok []
  cons : ∀ x xs, run (x :: xs) = do return (← step x) ++ (← run xs)

namespace Chains

variable {step : α → Except ε (List β)} {run : List α → Except ε (List β)} {xs ys : List α}

theorem append_eq_ok_iff (chains : Chains step run) {zs : List β} :
    run (xs ++ ys) = .ok zs ↔
      ∃ first rest, run xs = .ok first ∧ run ys = .ok rest ∧ zs = first ++ rest := by
  induction xs generalizing zs with
  | nil => simp [chains.nil]
  | cons x xs ih =>
      simp only [List.cons_append, chains.cons, bind_eq_ok_iff, pure_eq_ok_iff, ih]
      constructor
      · rintro ⟨part, first, _, ⟨front, rest, whole, later, rfl⟩, rfl⟩
        exact ⟨_, rest, ⟨part, first, front, whole, rfl⟩, later, (List.append_assoc _ _ _).symm⟩
      · rintro ⟨_, rest, ⟨part, first, front, whole, rfl⟩, later, rfl⟩
        exact ⟨part, first, _, ⟨front, rest, whole, later, rfl⟩, (List.append_assoc _ _ _).symm⟩

theorem eq_ok_iff (chains : Chains step run) {zs : List β} :
    run xs = .ok zs ↔
      ∃ parts, List.Forall₂ (fun x part => step x = .ok part) xs parts ∧ zs = parts.flatten := by
  induction xs generalizing zs with
  | nil =>
      rw [chains.nil, Except.ok.injEq]
      constructor
      · rintro rfl
        exact ⟨[], .nil, rfl⟩
      · rintro ⟨_, ⟨⟩, rfl⟩
        rfl
  | cons x xs ih =>
      simp only [chains.cons, bind_eq_ok_iff, pure_eq_ok_iff, ih]
      constructor
      · rintro ⟨part, first, _, ⟨parts, later, rfl⟩, rfl⟩
        exact ⟨part :: parts, .cons first later, rfl⟩
      · rintro ⟨_, _ | ⟨first, later⟩, rfl⟩
        exact ⟨_, first, _, ⟨_, later, rfl⟩, rfl⟩

theorem eq_error_iff (chains : Chains step run) {e : ε} :
    run xs = .error e ↔ ∃ before x after, xs = before ++ x :: after ∧
      (∀ y ∈ before, ∃ part, step y = .ok part) ∧ step x = .error e := by
  induction xs with
  | nil => simp [chains.nil]
  | cons x xs ih =>
      rw [chains.cons]
      constructor
      · intro failed
        cases first : step x with
        | error e' =>
            rw [first] at failed
            cases failed
            exact ⟨[], x, xs, rfl, by simp, first⟩
        | ok part =>
            have later : run xs = .error e := by
              cases rest : run xs with
              | error e' => rw [first, rest] at failed; cases failed; rfl
              | ok parts => rw [first, rest] at failed; cases failed
            obtain ⟨before, y, after, rfl, passed, fault⟩ := ih.mp later
            exact ⟨x :: before, y, after, rfl, List.forall_mem_cons.mpr ⟨⟨part, first⟩, passed⟩,
              fault⟩
      · rintro ⟨before, y, after, split, passed, fault⟩
        cases before with
        | nil =>
            obtain ⟨rfl, rfl⟩ := List.cons.inj split
            rw [fault]
            rfl
        | cons _ before =>
            obtain ⟨rfl, rfl⟩ := List.cons.inj split
            obtain ⟨⟨part, first⟩, passed⟩ := List.forall_mem_cons.mp passed
            rw [first, ih.mpr ⟨before, y, after, rfl, passed, fault⟩]
            rfl

private theorem exists_step (chains : Chains step run) {zs : List β} (written : run xs = .ok zs) :
    ∀ z ∈ zs, ∃ x ∈ xs, ∃ part, step x = .ok part ∧ z ∈ part := by
  induction xs generalizing zs with
  | nil =>
      rw [chains.nil] at written
      cases written
      exact fun _ member => absurd member List.not_mem_nil
  | cons x xs ih =>
      simp only [chains.cons, bind_eq_ok_iff, pure_eq_ok_iff] at written
      obtain ⟨part, first, rest, later, rfl⟩ := written
      refine List.forall_mem_append.mpr ⟨fun z member => ?_, fun z member => ?_⟩
      · exact ⟨x, List.mem_cons_self, part, first, member⟩
      · obtain ⟨y, inside, found⟩ := ih later z member
        exact ⟨y, List.mem_cons_of_mem x inside, found⟩

private theorem eq_iff_inOrder (chains : Chains step run) {Comes : α → Except ε (List β) → Prop}
    (steps : ∀ x outcome, step x = outcome ↔ Comes x outcome) {outcome : Except ε (List β)} :
    run xs = outcome ↔ InOrder Comes xs outcome := by
  cases outcome with
  | ok zs => simp only [InOrder, ← steps, chains.eq_ok_iff]
  | error e => simp only [InOrder, ← steps, chains.eq_error_iff]

end Chains

end Rows

/-- The directory that a module names, without the slashes that may follow it. -/
structure ModuleDirectory (module : Option String) (directory : String) : Prop where
  nonempty : directory ≠ ""
  trimmed : directory.toList.getLast? ≠ some '/'
  slashes : ∃ count, module = some (directory ++ String.ofList (List.replicate count '/'))

namespace Generate

variable {s : Settings} {schema : Schema}

theorem moduleDirectory?_eq_some_iff {module : Option String} {directory : String} :
    moduleDirectory? module = some directory ↔ ModuleDirectory module directory := by
  cases module with
  | none =>
      refine iff_of_false (by simp [moduleDirectory?]) ?_
      rintro ⟨_, _, count, none⟩
      cases none
  | some name =>
      have kept : moduleDirectory? (some name) = some directory ↔
          Text.dropTail (· == '/') name.toList = directory.toList ∧ directory ≠ "" := by
        rw [moduleDirectory?, Option.map_some, Option.bind_some, Config.nonempty?]
        split
        · rename_i empty
          rw [String.isEmpty_iff] at empty
          refine iff_of_false (by simp) ?_
          rintro ⟨same, nonempty⟩
          rw [same, String.ofList_toList] at empty
          exact nonempty empty
        · rename_i nonempty
          rw [String.isEmpty_iff] at nonempty
          rw [Option.some.injEq]
          constructor
          · rintro rfl
            exact ⟨String.toList_ofList.symm, nonempty⟩
          · rintro ⟨same, _⟩
            rw [same, String.ofList_toList]
      have slashes : (∃ dropped, name.toList = directory.toList ++ dropped ∧
          ∀ c ∈ dropped, (c == '/') = true) ↔
            ∃ count, some name = some (directory ++ String.ofList (List.replicate count '/')) := by
        simp only [Option.some.injEq, ← String.toList_inj, String.toList_append,
          String.toList_ofList, beq_iff_eq]
        constructor
        · rintro ⟨dropped, split, all⟩
          exact ⟨dropped.length, by rw [split, ← List.eq_replicate_of_mem all]⟩
        · rintro ⟨count, split⟩
          exact ⟨_, split, fun c member => List.eq_of_mem_replicate member⟩
      have trimmed : (∀ c ∈ directory.toList.getLast?, (c == '/') = false) ↔
          directory.toList.getLast? ≠ some '/' := by
        cases directory.toList.getLast? <;> simp
      rw [kept, Text.dropTail_eq_iff, slashes, trimmed]
      exact ⟨fun ⟨⟨tail, stop⟩, nonempty⟩ => ⟨nonempty, stop, tail⟩,
        fun ⟨nonempty, stop, tail⟩ => ⟨⟨tail, stop⟩, nonempty⟩⟩

theorem ModuleDirectory.unique {module : Option String} {directory other : String}
    (named : ModuleDirectory module directory) (again : ModuleDirectory module other) :
    directory = other :=
  Option.some.inj ((moduleDirectory?_eq_some_iff.mpr named).symm.trans
    (moduleDirectory?_eq_some_iff.mpr again))

private theorem stripModule_of_directory {module : Option String} {directory : String}
    (named : ModuleDirectory module directory) (path : String) :
    (∀ rest, stripModule module path = .ok rest ↔ path = directory ++ "/" ++ rest) ∧
    ∀ e, stripModule module path = .error e ↔
      e = .outsideModule path directory ∧ ∀ rest, path ≠ directory ++ "/" ++ rest := by
  rw [stripModule, moduleDirectory?_eq_some_iff.mpr named]
  dsimp only
  cases found : Text.after? (directory ++ "/") path with
  | some inside =>
      rw [Text.after?_eq_some_iff] at found
      simp [found, String.append_right_inj, eq_comm]
  | none =>
      have outside := Text.after?_eq_none_iff.mp found
      exact ⟨fun rest => by simp [outside], fun e => by simp [outside, eq_comm]⟩

private theorem stripModule_of_none {module : Option String} {path : String}
    (whole : ∀ directory, ¬ ModuleDirectory module directory) :
    stripModule module path = .ok path := by
  have none : moduleDirectory? module = none := by
    refine Option.eq_none_iff_forall_ne_some.mpr fun directory named => ?_
    exact whole directory (moduleDirectory?_eq_some_iff.mp named)
  rw [stripModule, none]

/-- What an output unit comes to: it is written, and its path is taken relative to the directory of
the module, if there is one. -/
inductive UnitComes (s : Settings) (schema : Schema) (unit : OutputUnit) :
    Generated (List Artifact) → Prop
  | unwritten {fault : RenderError} (failed : s.language.renderUnit schema unit = .error fault) :
      UnitComes s schema unit (.error (.render fault))
  | whole {content : String} (written : s.language.renderUnit schema unit = .ok content)
      (unnamed : ∀ directory, ¬ ModuleDirectory s.module directory) :
      UnitComes s schema unit (.ok [⟨unit.path, emit s.formatter content⟩])
  | inside {content directory path : String}
      (written : s.language.renderUnit schema unit = .ok content)
      (named : ModuleDirectory s.module directory) (split : unit.path = directory ++ "/" ++ path) :
      UnitComes s schema unit (.ok [⟨path, emit s.formatter content⟩])
  | outside {content directory : String}
      (written : s.language.renderUnit schema unit = .ok content)
      (named : ModuleDirectory s.module directory)
      (apart : ∀ path, unit.path ≠ directory ++ "/" ++ path) :
      UnitComes s schema unit (.error (.outsideModule unit.path directory))

/-- What a file comes to: it is checked, then split into units, and these run in order. -/
inductive FileComes (s : Settings) (schema : Schema) (file : File) :
    Generated (List Artifact) → Prop
  | rejected {fault : CheckError} (failed : checkFile schema file = .error fault) :
      FileComes s schema file (.error (.check fault))
  | unsplit {fault : RenderError} (accepted : checkFile schema file = .ok ())
      (failed : s.language.units file = .error fault) :
      FileComes s schema file (.error (.render fault))
  | split {units : List OutputUnit} {outcome : Generated (List Artifact)}
      (accepted : checkFile schema file = .ok ()) (written : s.language.units file = .ok units)
      (run : InOrder (UnitComes s schema) units outcome) : FileComes s schema file outcome

def unitPart (s : Settings) (schema : Schema) (unit : OutputUnit) : Generated (List Artifact) := do
  return [← unitArtifact s schema unit]

private theorem unitPart_comes (s : Settings) (schema : Schema) (unit : OutputUnit) :
    UnitComes s schema unit (unitPart s schema unit) := by
  rw [unitPart, unitArtifact]
  cases written : s.language.renderUnit schema unit with
  | error fault => exact .unwritten written
  | ok content =>
      by_cases named : ∃ directory, ModuleDirectory s.module directory
      · obtain ⟨directory, named⟩ := named
        obtain ⟨inside, outside⟩ := stripModule_of_directory named unit.path
        cases stripped : stripModule s.module unit.path with
        | ok path => exact .inside written named ((inside path).mp stripped)
        | error e =>
            obtain ⟨rfl, apart⟩ := (outside e).mp stripped
            exact .outside written named apart
      · have unnamed := not_exists.mp named
        rw [stripModule_of_none unnamed]
        exact .whole written unnamed

theorem UnitComes.eq {unit : OutputUnit} {outcome : Generated (List Artifact)}
    (comes : UnitComes s schema unit outcome) : unitPart s schema unit = outcome := by
  rw [unitPart, unitArtifact]
  cases comes with
  | unwritten failed =>
      rw [failed]
      rfl
  | whole written unnamed =>
      rw [written, stripModule_of_none unnamed]
      rfl
  | inside written named split =>
      rw [written, ((stripModule_of_directory named _).1 _).mpr split]
      rfl
  | outside written named apart =>
      rw [written, ((stripModule_of_directory named _).2 _).mpr ⟨rfl, apart⟩]
      rfl

theorem unitPart_eq_iff {unit : OutputUnit} {outcome : Generated (List Artifact)} :
    unitPart s schema unit = outcome ↔ UnitComes s schema unit outcome :=
  ⟨fun same => same ▸ unitPart_comes s schema unit, UnitComes.eq⟩

private theorem unitArtifacts_chains (s : Settings) (schema : Schema) :
    Chains (unitPart s schema) (unitArtifacts s schema) where
  nil := rfl
  cons unit units := by
    rw [unitArtifacts, unitPart]
    cases unitArtifact s schema unit <;> rfl

private theorem checkFlags_of_checkFile {file : File} (accepted : checkFile schema file = .ok ()) :
    checkFlags file.messages = .ok () := by
  have read : ∀ m ∈ file.messages, ∃ disabled, m.isDisabled = .ok disabled := by
    intro m member
    obtain ⟨disabled, read, _⟩ := accepted_of_checkFile accepted member
    exact ⟨disabled, read⟩
  generalize file.messages = messages at read
  induction messages with
  | nil => rfl
  | cons m ms ih =>
      obtain ⟨⟨disabled, first⟩, rest⟩ := List.forall_mem_cons.mp read
      rw [checkFlags, first, ih rest]
      rfl

theorem unitArtifacts_eq_iff {units : List OutputUnit} {outcome : Generated (List Artifact)} :
    unitArtifacts s schema units = outcome ↔ InOrder (UnitComes s schema) units outcome :=
  (unitArtifacts_chains s schema).eq_iff_inOrder fun _ _ => unitPart_eq_iff

/-- Of an accepted file the flags need not be read again: the steps left are the split and the
units. -/
theorem fileArtifacts_eq_iff {file : File} {outcome : Generated (List Artifact)} :
    fileArtifacts s schema file = outcome ↔ FileComes s schema file outcome := by
  constructor
  · rintro rfl
    rw [fileArtifacts]
    cases checked : checkFile schema file with
    | error fault => exact .rejected checked
    | ok _ =>
        rw [checkFlags_of_checkFile checked]
        cases written : s.language.units file with
        | error fault => exact .unsplit checked written
        | ok parts => exact .split checked written (unitArtifacts_eq_iff.mp rfl)
  · intro comes
    rw [fileArtifacts]
    cases comes with
    | rejected failed =>
        rw [failed]
        rfl
    | unsplit accepted failed =>
        rw [accepted, checkFlags_of_checkFile accepted, failed]
        rfl
    | split accepted written run =>
        rw [accepted, checkFlags_of_checkFile accepted, written]
        exact unitArtifacts_eq_iff.mpr run

theorem units_of_fileArtifacts {file : File} {artifacts : List Artifact}
    (written : fileArtifacts s schema file = .ok artifacts) :
    ∃ units, s.language.units file = .ok units ∧ unitArtifacts s schema units = .ok artifacts := by
  cases fileArtifacts_eq_iff.mp written with
  | split _ split run => exact ⟨_, split, unitArtifacts_eq_iff.mpr run⟩

private theorem filesArtifacts_chains (s : Settings) (schema : Schema) :
    Chains (fileArtifacts s schema) (filesArtifacts s schema) :=
  ⟨rfl, fun _ _ => rfl⟩

theorem filesArtifacts_eq_iff {files : List File} {outcome : Generated (List Artifact)} :
    filesArtifacts s schema files = outcome ↔ InOrder (FileComes s schema) files outcome :=
  (filesArtifacts_chains s schema).eq_iff_inOrder fun _ _ => fileArtifacts_eq_iff

private theorem namedFiles_chains (schema : Schema) :
    Chains (fun name => namedFiles schema [name]) (namedFiles schema) where
  nil := rfl
  cons name names := by
    rw [namedFiles, namedFiles]
    cases schema.file? name with
    | none => rfl
    | some file => cases namedFiles schema names <;> rfl

theorem file?_eq_none_iff {name : String} :
    schema.file? name = none ↔ name ∉ schema.files.map File.name := by
  rw [Schema.file?, List.find?_eq_none]
  simp

/-- The first name that no file has is reported; if there is none the files are those named. -/
theorem namedFiles_eq (schema : Schema) (names : List String) :
    namedFiles schema names =
      match names.find? (· ∉ schema.files.map File.name) with
      | some name => .error (.unknownFile name)
      | none => .ok (names.filterMap schema.file?) := by
  induction names with
  | nil => rfl
  | cons name names ih =>
      rw [namedFiles, List.find?_cons, List.filterMap_cons]
      cases found : schema.file? name with
      | none => simp [file?_eq_none_iff.mp found]
      | some file =>
          have known : name ∈ schema.files.map File.name := by
            by_contra missing
            rw [file?_eq_none_iff.mpr missing] at found
            cases found
          simp only [known, not_true_eq_false, decide_false, ih]
          cases names.find? (· ∉ schema.files.map File.name) <;> rfl

private theorem filterMap_file?_of_nodup (nodup : (schema.files.map File.name).Nodup) :
    (schema.files.map File.name).filterMap schema.file? = schema.files := by
  have found : ∀ file ∈ schema.files, (schema.file? ∘ File.name) file = some file := by
    intro file member
    rw [Function.comp_apply]
    cases first : schema.file? file.name with
    | none => exact absurd (List.mem_map_of_mem member) (file?_eq_none_iff.mp first)
    | some other =>
        have first : schema.files.find? (·.name == file.name) = some other := first
        have named := List.find?_some first
        have same : other.name = file.name := eq_of_beq named
        have inside : other ∈ schema.files := List.mem_of_find?_eq_some first
        exact congrArg some (List.inj_on_of_nodup_map nodup inside member same)
  rw [List.filterMap_map, List.filterMap_congr found, List.filterMap_some]

private theorem mem_of_mem_selected {names : List String} {files : List File}
    (chosen : selected schema names = .ok files) : ∀ file ∈ files, file ∈ schema.files := by
  unfold selected at chosen
  split at chosen
  · cases chosen
    exact fun _ member => member
  · rw [namedFiles_eq] at chosen
    split at chosen
    · cases chosen
    · cases chosen
      intro file member
      obtain ⟨name, _, found⟩ := List.mem_filterMap.mp member
      exact List.mem_of_find?_eq_some found

end Generate

open Generate

/-- The settings of a run in a language. -/
def Config.settings (formatters : Formatters) (config : Config) (language : Language) :
    Settings where
  language := language
  formatter := if config.format then formatters language else none
  module := config.module

/-- The run of a request for the files of given names. -/
def generateFor (formatters : Formatters) (request : Request) (config : Config)
    (names : List String) : Generated (List Artifact) :=
  generate formatters { request with filesToGenerate := names } config

theorem generateFor_eq {formatters : Formatters} {request : Request} {config : Config}
    {language : Language} (known : Language.ofName config.lang = .ok language)
    (names : List String) : generateFor formatters request config names =
      selected (Schema.ofFiles request.files) names >>=
        filesArtifacts (config.settings formatters language) (Schema.ofFiles request.files) := by
  rw [generateFor, generate, known]
  rfl

private theorem selected_of_ne_nil {schema : Schema} {names : List String} (named : names ≠ []) :
    selected schema names = namedFiles schema names := by
  rw [selected, if_neg (by simpa using named)]

section Known

variable {formatters : Formatters} {request : Request} {config : Config} {language : Language}
  {names xs ys : List String} {artifacts : List Artifact}
  (known : Language.ofName config.lang = .ok language)

include known

theorem generateFor_append_eq_ok_iff (xsNamed : xs ≠ []) (ysNamed : ys ≠ []) :
    generateFor formatters request config (xs ++ ys) = .ok artifacts ↔
      ∃ first rest, generateFor formatters request config xs = .ok first ∧
        generateFor formatters request config ys = .ok rest ∧ artifacts = first ++ rest := by
  have both : xs ++ ys ≠ [] := List.append_ne_nil_of_left_ne_nil xsNamed ys
  simp only [generateFor_eq known, selected_of_ne_nil, both, xsNamed, ysNamed, ne_eq,
    not_false_eq_true, bind_eq_ok_iff, (namedFiles_chains _).append_eq_ok_iff]
  constructor
  · rintro ⟨_, ⟨xFiles, yFiles, xFound, yFound, rfl⟩, written⟩
    obtain ⟨first, rest, xWritten, yWritten, rfl⟩ :=
      (filesArtifacts_chains _ _).append_eq_ok_iff.mp written
    exact ⟨first, rest, ⟨xFiles, xFound, xWritten⟩, ⟨yFiles, yFound, yWritten⟩, rfl⟩
  · rintro ⟨first, rest, ⟨xFiles, xFound, xWritten⟩, ⟨yFiles, yFound, yWritten⟩, rfl⟩
    exact ⟨_, ⟨xFiles, yFiles, xFound, yFound, rfl⟩,
      (filesArtifacts_chains _ _).append_eq_ok_iff.mpr ⟨first, rest, xWritten, yWritten, rfl⟩⟩

private theorem generateFor_nil (nodup : (request.files.map File.name).Nodup) :
    generateFor formatters request config [] =
      generateFor formatters request config (request.files.map File.name) := by
  have all : selected (Schema.ofFiles request.files) (request.files.map File.name) =
      .ok request.files := by
    rw [selected]
    split
    · rfl
    · have missing : (request.files.map File.name).find?
          (· ∉ (Schema.ofFiles request.files).files.map File.name) = none :=
        List.find?_eq_none.mpr fun name member => by
          rw [decide_eq_true_eq, not_not]
          exact member
      rw [namedFiles_eq, missing]
      have files : request.files = (Schema.ofFiles request.files).files := rfl
      rw [files] at nodup
      exact congrArg Except.ok (filterMap_file?_of_nodup nodup)
  rw [generateFor_eq known, generateFor_eq known, all]
  rfl

/-- What the artifacts of a run are called: the paths of output units, less the directory. -/
private theorem path_of_mem_artifacts {directory : String}
    (named : ModuleDirectory config.module directory)
    (written : generateFor formatters request config names = .ok artifacts) :
    ∀ artifact ∈ artifacts, ∃ file ∈ request.files, ∃ units, language.units file = .ok units ∧
      ∃ unit ∈ units, unit.path = directory ++ "/" ++ artifact.path := by
  rw [generateFor_eq known, bind_eq_ok_iff] at written
  obtain ⟨files, chosen, written⟩ := written
  intro artifact member
  obtain ⟨file, inside, part, ran, member⟩ :=
    (filesArtifacts_chains _ _).exists_step written artifact member
  refine ⟨file, mem_of_mem_selected chosen file inside, ?_⟩
  obtain ⟨units, split, run⟩ := units_of_fileArtifacts ran
  obtain ⟨unit, there, piece, comes, member⟩ := (unitArtifacts_chains _ _).exists_step run _ member
  refine ⟨units, split, unit, there, ?_⟩
  cases unitPart_eq_iff.mp comes with
  | whole _ unnamed => exact absurd named (unnamed directory)
  | inside _ other path =>
      obtain rfl := ModuleDirectory.unique other named
      rw [List.mem_singleton.mp member]
      exact path

end Known

/-- A run is the row of the runs of its files. A name that no file has is reported before any
check. Else the files are checked, split into units and written in the order of their names, up to
the first fault; so the run for two lists of names is that for the one and that for the other, and
no names stand for those of all files. A path is outside the directory of the module if it does
not begin with it and a slash. -/
theorem generate_runs_files_in_order (formatters : Formatters) (request : Request)
    (config : Config) {language : Language} (known : Language.ofName config.lang = .ok language) :
    (∀ names, names ≠ [] → ∀ outcome, generateFor formatters request config names = outcome ↔
      match names.find? (· ∉ request.files.map File.name) with
      | some name => outcome = .error (.unknownFile name)
      | none => InOrder (FileComes (config.settings formatters language) (.ofFiles request.files))
          (names.filterMap fun name => request.files.find? (·.name == name)) outcome) ∧
    (∀ xs ys, xs ≠ [] → ys ≠ [] → ∀ artifacts,
      generateFor formatters request config (xs ++ ys) = .ok artifacts ↔
        ∃ first rest, generateFor formatters request config xs = .ok first ∧
          generateFor formatters request config ys = .ok rest ∧ artifacts = first ++ rest) ∧
    ((request.files.map File.name).Nodup → generateFor formatters request config [] =
      generateFor formatters request config (request.files.map File.name)) ∧
    ∀ directory, ModuleDirectory config.module directory →
      (∀ names artifacts, generateFor formatters request config names = .ok artifacts →
        ∀ artifact ∈ artifacts, ∃ file ∈ request.files, ∃ units, language.units file = .ok units ∧
          ∃ unit ∈ units, unit.path = directory ++ "/" ++ artifact.path) ∧
      ∀ unit content, language.renderUnit (.ofFiles request.files) unit = .ok content →
        ∀ e, unitArtifact (config.settings formatters language) (.ofFiles request.files) unit =
            .error e ↔
          e = .outsideModule unit.path directory ∧
            ∀ path, unit.path ≠ directory ++ "/" ++ path := by
  refine ⟨fun names named outcome => ?_, fun xs ys xsNamed ysNamed artifacts =>
    generateFor_append_eq_ok_iff known xsNamed ysNamed, generateFor_nil known, ?_⟩
  · rw [generateFor_eq known, selected_of_ne_nil named, namedFiles_eq]
    show _ ↔ match names.find? (· ∉ (Schema.ofFiles request.files).files.map File.name) with
      | some name => _
      | none => _
    cases names.find? (· ∉ (Schema.ofFiles request.files).files.map File.name) with
    | some name => exact eq_comm
    | none => exact filesArtifacts_eq_iff
  · intro directory named
    refine ⟨fun names artifacts written => path_of_mem_artifacts known named written, ?_⟩
    intro unit content written e
    rw [unitArtifact, show (config.settings formatters language).language = language from rfl,
      written]
    rw [← (stripModule_of_directory named unit.path).2]
    show (stripModule config.module unit.path >>= _) = _ ↔ _
    cases stripModule config.module unit.path <;> simp [bind, Except.bind, pure, Except.pure]

/-! Two files of one package, one of which goes by another package in Java. -/

def stockFile : File where
  name := "stock.proto"
  package := "acme"
  messages := [{ name := "Item" }]

def shelfFile : File where
  name := "shelf.proto"
  package := "acme"
  options := { javaPackage := some "acme.shelf" }
  messages := [{ name := "Board" }, { name := "Board.Edge" }]

def strayFile : File where
  name := "stray.proto"
  messages := [{ name := "Stray" }]

def depot : Request where
  files := [stockFile, shelfFile, strayFile]

def depotConfig : Config where
  lang := "java"
  module := some "acme//"

private theorem acme_directory : ModuleDirectory depotConfig.module "acme" where
  nonempty := by decide
  trimmed := by decide
  slashes := ⟨2, rfl⟩

theorem depot_runs_in_order :
    Language.ofName depotConfig.lang = .ok .java ∧
    generateFor (fun _ => none) depot depotConfig ["shelf.proto", "ghost.proto", "stray.proto"] =
      .error (.unknownFile "ghost.proto") ∧
    generateFor (fun _ => none) depot depotConfig ["shelf.proto", "stray.proto", "stock.proto"] =
      .error (.outsideModule "StrayValidator.java" "acme") ∧
    (∃ stock shelf, stock.map Artifact.path = ["StockValidator.java"] ∧
      shelf.map Artifact.path = ["shelf/ShelfValidator.java"] ∧
      generateFor (fun _ => none) depot depotConfig ["stock.proto", "shelf.proto"] =
        .ok (stock ++ shelf)) ∧
    generateFor (fun _ => none) depot depotConfig [] =
      generateFor (fun _ => none) depot depotConfig ["stock.proto", "shelf.proto", "stray.proto"] :=
    by
  have known : Language.ofName depotConfig.lang = .ok .java := rfl
  obtain ⟨order, append, all, within⟩ :=
    generate_runs_files_in_order (fun _ => none) depot depotConfig known
  refine ⟨known, (order _ (by decide) _).mpr rfl, ?_, ?_, all (by decide)⟩
  · refine (order _ (by decide) _).mpr ⟨[shelfFile], strayFile, [stockFile], rfl, ?_, ?_⟩
    · exact List.forall_mem_singleton.mpr ⟨_, fileArtifacts_eq_iff.mp rfl⟩
    · obtain ⟨_, outside⟩ := within "acme" acme_directory
      have apart := ((outside (Java.validatorFile strayFile strayFile.messages "Stray") _ rfl _).mp
        rfl).2
      exact .split rfl rfl ⟨[], _, [], rfl, by simp, .outside rfl acme_directory apart⟩
  · have stock := (order ["stock.proto"] (by decide) (.ok _)).mpr
      ⟨_, .cons (fileArtifacts_eq_iff.mp rfl) .nil, rfl⟩
    have shelf := (order ["shelf.proto"] (by decide) (.ok _)).mpr
      ⟨_, .cons (fileArtifacts_eq_iff.mp rfl) .nil, rfl⟩
    have both := (append _ _ (by decide) (by decide) _).mpr ⟨_, _, stock, shelf, rfl⟩
    exact ⟨_, _, rfl, rfl, both⟩

end ProtoRules
