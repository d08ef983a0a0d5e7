import Mathlib.Data.List.Induction
import ProtoRules.Descriptor.Schema
import ProtoRules.Proofs.Texts

/-!
Lookup of types by their qualified names. Of the declarations of a name, in the order of the files
and of their places in them, the last one is found, and every position that a schema has on record
is one of a declaration.
-/

namespace ProtoRules

namespace Dictionary

variable {α : Type}

private theorem ofList_concat (pairs : List (String × α)) (p : String × α) :
    ofList (pairs ++ [p]) = insert p.1 p.2 (ofList pairs) := by
  rw [ofList, List.foldl_append]
  rfl

theorem find?_ofList (key : String) (pairs : List (String × α)) :
    find? key (ofList pairs) = (pairs.reverse.find? (·.1 == key)).map Prod.snd := by
  induction pairs using List.reverseRecOn with
  | nil => rfl
  | append_singleton pairs p ih =>
      rw [ofList_concat, find?_insert, ih, List.reverse_append, List.reverse_singleton,
        List.singleton_append, List.find?_cons]
      by_cases same : key = p.1
      · simp [same]
      · simp [same, beq_eq_false_iff_ne.mpr (Ne.symm same)]

private theorem ofList_subset (pairs : List (String × α)) : ofList pairs ⊆ pairs := by
  induction pairs using List.reverseRecOn with
  | nil => exact List.nil_subset _
  | append_singleton pairs p ih =>
      intro q member
      rw [ofList_concat] at member
      rcases mem_insert member with rfl | earlier
      · exact List.mem_append_right _ (List.mem_singleton.mpr rfl)
      · exact List.mem_append_left _ (ih earlier)

end Dictionary

namespace Schema

section Declarations

variable {α : Type} (select : File → List α) (name : α → String)

/-- What files declare of a kind, each entry with its file. -/
def declared (files : List File) : List (File × α) :=
  files.flatMap fun file => (select file).map (file, ·)

/-- The last declaration of a qualified name, with the file that it is in. -/
def last? (files : List File) (key : String) : Option (File × α) :=
  (declared select files).reverse.find? fun d => d.1.fullName (name d.2) == key

/-- The declarations that positions stand for are all there are, in their order. -/
private theorem map_at?_declarations (files : List File) :
    ((declarations select name files).map fun q => (q.1, (ofFiles files).at? select q.2)) =
      (declared select files).map fun d => (d.1.fullName (name d.2), some d) := by
  have found : ∀ q ∈ files.zipIdx, ((select q.1).zipIdx.map fun r =>
      (q.1.fullName (name r.1), (ofFiles files).at? select ⟨q.2, r.2⟩)) =
        (select q.1).map fun a => (q.1.fullName (name a), some (q.1, a)) := by
    rintro ⟨file, i⟩ inFiles
    have first : (ofFiles files).files[i]? = some file := List.mem_zipIdx_iff_getElem?.mp inFiles
    have entry : ∀ r ∈ (select file).zipIdx,
        (file.fullName (name r.1), (ofFiles files).at? select ⟨i, r.2⟩) =
          (file.fullName (name r.1), some (file, r.1)) := by
      rintro ⟨a, k⟩ inFile
      simp [at?, first, List.mem_zipIdx_iff_getElem?.mp inFile]
    calc
      _ = (select file).zipIdx.map fun r => (file.fullName (name r.1), some (file, r.1)) :=
        List.map_congr_left entry
      _ = ((select file).zipIdx.map Prod.fst).map fun a =>
          (file.fullName (name a), some (file, a)) := by rw [List.map_map]; rfl
      _ = _ := by rw [List.zipIdx_map_fst]
  calc
    _ = files.zipIdx.flatMap fun q => (select q.1).zipIdx.map fun r =>
        (q.1.fullName (name r.1), (ofFiles files).at? select ⟨q.2, r.2⟩) := by
      rw [declarations, List.map_flatMap]
      simp only [List.map_map]
      rfl
    _ = files.zipIdx.flatMap fun q =>
        (select q.1).map fun a => (q.1.fullName (name a), some (q.1, a)) :=
      List.flatMap_congr found
    _ = (files.zipIdx.map Prod.fst).flatMap fun file =>
        (select file).map fun a => (file.fullName (name a), some (file, a)) := by
      rw [List.flatMap_map]
    _ = _ := by
      rw [List.zipIdx_map_fst, declared, List.map_flatMap]
      simp only [List.map_map]
      rfl

private theorem map_at?_find? (files : List File) (key : String) :
    (Dictionary.find? key (Dictionary.ofList (declarations select name files))).map
        ((ofFiles files).at? select) =
      (last? select name files key).map some := by
  have keyed : ((declarations select name files).reverse.find? (·.1 == key)).map
      (fun q => (q.1, (ofFiles files).at? select q.2)) =
        (last? select name files key).map fun d => (d.1.fullName (name d.2), some d) := by
    have both := congrArg (fun pairs => pairs.reverse.find? (·.1 == key))
      (map_at?_declarations select name files)
    simp only [← List.map_reverse, List.find?_map] at both
    exact both
  rw [Dictionary.find?_ofList]
  have seconds := congrArg (Option.map Prod.snd) keyed
  simpa only [Option.map_map, Function.comp_def] using seconds

variable {select name} {files : List File} {key : String}

theorem exists_of_mem_declarations {p : Position}
    (member : (key, p) ∈ declarations select name files) : ∃ file a, files[p.file]? = some file ∧
      (select file)[p.entry]? = some a ∧ key = file.fullName (name a) := by
  obtain ⟨⟨file, i⟩, inFiles, member⟩ := List.mem_flatMap.mp member
  obtain ⟨⟨a, k⟩, inFile, same⟩ := List.mem_map.mp member
  cases same
  exact ⟨file, a, List.mem_zipIdx_iff_getElem?.mp inFiles,
    List.mem_zipIdx_iff_getElem?.mp inFile, rfl⟩

private theorem file_of_at? {p : Position} {file : File} {a : α}
    (there : (ofFiles files).at? select p = some (file, a)) : files[p.file]? = some file := by
  obtain ⟨f, inFiles, there⟩ := Option.bind_eq_some_iff.mp there
  obtain ⟨b, _, same⟩ := Option.bind_eq_some_iff.mp there
  cases same
  exact inFiles

/-- A name has either no position and no declaration, or the position of its last declaration. -/
private theorem find?_cases :
    (Dictionary.find? key (Dictionary.ofList (declarations select name files)) = none ∧
      last? select name files key = none) ∨
    ∃ p file a, Dictionary.find? key (Dictionary.ofList (declarations select name files)) = some p ∧
      (ofFiles files).at? select p = some (file, a) ∧
      last? select name files key = some (file, a) := by
  have found := map_at?_find? select name files key
  cases position : Dictionary.find? key (Dictionary.ofList (declarations select name files)) with
  | none =>
      rw [position] at found
      exact .inl ⟨rfl, Option.map_eq_none_iff.mp found.symm⟩
  | some p =>
      rw [position] at found
      obtain ⟨⟨file, a⟩, last, there⟩ := Option.map_eq_some_iff.mp found.symm
      exact .inr ⟨p, file, a, rfl, there.symm, last⟩

end Declarations

def lastMessage? (files : List File) (key : String) : Option (File × Message) :=
  last? File.messages Message.name files key

def lastEnum? (files : List File) (key : String) : Option (File × Enum) :=
  last? File.enums Enum.name files key

/-- What is found for a name that is asked for: the last declaration of a qualified name. -/
structure FindsLast (files : List File) (asked key : String) : Prop where
  message : (ofFiles files).message asked =
    match lastMessage? files key with
    | some (_, m) => .ok m
    | none => .error (.unknownMessage asked)
  enumeration : (ofFiles files).enumeration asked =
    match lastEnum? files key with
    | some (_, e) => .ok e
    | none => .error (.unknownEnum asked)
  declaringFile : (ofFiles files).declaringFile? asked =
    match lastMessage? files key, lastEnum? files key with
    | some (file, _), _ => some file
    | none, some (file, _) => some file
    | none, none => none

private theorem findsLast_of_undot (files : List File) {asked key : String}
    (undotted : Text.undot asked = key) : FindsLast files asked key := by
  have messages : (Dictionary.find? key (ofFiles files).messages = none ∧
      lastMessage? files key = none) ∨ ∃ p file m,
        Dictionary.find? key (ofFiles files).messages = some p ∧
          (ofFiles files).at? File.messages p = some (file, m) ∧
          lastMessage? files key = some (file, m) := find?_cases
  have enums : (Dictionary.find? key (ofFiles files).enums = none ∧
      lastEnum? files key = none) ∨ ∃ p file e,
        Dictionary.find? key (ofFiles files).enums = some p ∧
          (ofFiles files).at? File.enums p = some (file, e) ∧
          lastEnum? files key = some (file, e) := find?_cases
  constructor
  case message =>
    rw [Schema.message, undotted]
    obtain ⟨absent, none⟩ | ⟨p, file, m, position, there, last⟩ := messages
    · rw [absent, none]
      rfl
    · rw [position, Option.bind_some, there, last]
  case enumeration =>
    rw [Schema.enumeration, undotted]
    obtain ⟨absent, none⟩ | ⟨p, file, e, position, there, last⟩ := enums
    · rw [absent, none]
      rfl
    · rw [position, Option.bind_some, there, last]
  case declaringFile =>
    rw [declaringFile?, undotted]
    obtain ⟨absent, none⟩ | ⟨p, file, m, position, there, last⟩ := messages
    · rw [absent, none]
      obtain ⟨absent, none⟩ | ⟨p, file, e, position, there, last⟩ := enums
      · rw [absent, none]
        rfl
      · rw [position, last]
        exact file_of_at? there
    · rw [position, last]
      exact file_of_at? there

/-- A qualified name stands for the last message and for the last enum declared under it, with or
without a dot in front, and its file is that of the message if there is one. All positions on record
are positions of declarations, each under its qualified name. -/
theorem lookup_finds_last_declaration (files : List File) :
    (∀ key : String, key.toList.head? ≠ some '.' →
      FindsLast files key key ∧ FindsLast files ("." ++ key) key) ∧
    (∀ key p, (key, p) ∈ (ofFiles files).messages →
      ∃ file m, files[p.file]? = some file ∧ file.messages[p.entry]? = some m ∧
        key = file.fullName m.name) ∧
    ∀ key p, (key, p) ∈ (ofFiles files).enums →
      ∃ file e, files[p.file]? = some file ∧ file.enums[p.entry]? = some e ∧
        key = file.fullName e.name := by
  refine ⟨fun key plain => ⟨?_, ?_⟩, fun key p recorded => ?_, fun key p recorded => ?_⟩
  · exact findsLast_of_undot files (Text.undot_of_head?_ne plain)
  · exact findsLast_of_undot files (Text.undot_dotted key)
  · exact exists_of_mem_declarations (Dictionary.ofList_subset _ recorded)
  · exact exists_of_mem_declarations (Dictionary.ofList_subset _ recorded)

/-! Declarations of one name: two in a file, one spelled out in a file without a package, and enums
of the same name. -/

def toolsFile : File where
  name := "tools.proto"
  package := "acme"
  messages := [{ name := "Saw" }, { name := "Saw", oneofs := [{ name := "teeth" }] }]
  enums := [⟨"Saw", []⟩, ⟨"Size", []⟩]

def spelledFile : File where
  name := "spelled.proto"
  messages := [{ name := "acme.Saw" }, { name := "Size" }]

def sizesFile : File where
  name := "sizes.proto"
  package := "acme"
  enums := [⟨"Size", [⟨"SMALL", 0⟩]⟩]

def toolFiles : List File :=
  [toolsFile, spelledFile, sizesFile]

theorem toolFiles_lookup :
    ("acme.Saw".toList.head? ≠ some '.' ∧
      (ofFiles toolFiles).message ".acme.Saw" = .ok { name := "acme.Saw" } ∧
      (ofFiles toolFiles).enumeration "acme.Saw" = .ok ⟨"Saw", []⟩ ∧
      ((ofFiles toolFiles).declaringFile? "acme.Saw").map File.name = some "spelled.proto") ∧
    ("acme.Size".toList.head? ≠ some '.' ∧
      (ofFiles toolFiles).message ".acme.Size" = .error (.unknownMessage ".acme.Size") ∧
      (ofFiles toolFiles).enumeration "acme.Size" = .ok ⟨"Size", [⟨"SMALL", 0⟩]⟩ ∧
      ((ofFiles toolFiles).declaringFile? ".acme.Size").map File.name = some "sizes.proto") ∧
    ("acme.Size", ⟨2, 0⟩) ∈ (ofFiles toolFiles).enums ∧
      ∃ file e, toolFiles[2]? = some file ∧ file.enums[0]? = some e ∧
        "acme.Size" = file.fullName e.name := by
  have saw : "acme.Saw".toList.head? ≠ some '.' := by decide
  have size : "acme.Size".toList.head? ≠ some '.' := by decide
  have recorded : ("acme.Size", ⟨2, 0⟩) ∈ (ofFiles toolFiles).enums := by decide
  obtain ⟨names, _, enums⟩ := lookup_finds_last_declaration toolFiles
  refine ⟨⟨saw, ?_, ?_, ?_⟩, ⟨size, ?_, ?_, ?_⟩, recorded, enums _ _ recorded⟩
  · exact (names _ saw).2.message
  · exact (names _ saw).1.enumeration
  · exact congrArg (Option.map File.name) (names _ saw).1.declaringFile
  · exact (names _ size).2.message
  · exact (names _ size).1.enumeration
  · exact congrArg (Option.map File.name) (names _ size).2.declaringFile

end Schema

end ProtoRules
