import Mathlib.Data.List.Forall2
import Mathlib.Data.List.Nodup
import ProtoRules.Emit.JavaClass
import ProtoRules.Proofs.Outcome
import ProtoRules.Proofs.Texts

/-!
Classes of Java output units. A unit is one class, and the validators of its messages are classes
inside it. The names of all these are different only if no message is called like the outer class,
which top-level messages with a file of their own always are.
-/

namespace ProtoRules

namespace OutputUnit

variable {ms kept : List Message}

theorem mem_validated_iff (read : validated ms = .ok kept) {m : Message} :
    m ∈ kept ↔ m ∈ ms ∧ m.isIgnored = .ok false := by
  induction ms generalizing kept with
  | nil =>
      cases read
      simp
  | cons n ms ih =>
      simp only [validated, bind_eq_ok_iff, pure_eq_ok_iff] at read
      obtain ⟨ignored, flag, rest, later, rfl⟩ := read
      have inside := ih later
      cases ignored with
      | true =>
          rw [if_pos rfl, inside, List.mem_cons, or_and_right]
          refine (or_iff_right ?_).symm
          rintro ⟨rfl, shown⟩
          cases flag.symm.trans shown
      | false =>
          rw [if_neg Bool.false_ne_true, List.mem_cons, List.mem_cons, inside, or_and_right]
          refine or_congr_left (iff_self_and.mpr ?_)
          rintro rfl
          exact flag

theorem isIgnored_of_validated (read : validated ms = .ok kept) {m : Message} (member : m ∈ ms) :
    ∃ ignored, m.isIgnored = .ok ignored := by
  induction ms generalizing kept with
  | nil => cases member
  | cons n ms ih =>
      simp only [validated, bind_eq_ok_iff] at read
      obtain ⟨ignored, flag, rest, later, _⟩ := read
      rcases List.mem_cons.mp member with rfl | member
      · exact ⟨ignored, flag⟩
      · exact ih later member

end OutputUnit

namespace Java

/-- A name with its dots as underscores. -/
def flatName (name : String) : String :=
  String.ofList (name.toList.map fun c => if c = '.' then '_' else c)

/-- Names that differ at most in which of their separators are dots and which are underscores. -/
def LookAlike (a b : String) : Prop :=
  List.Forall₂ (fun c d => c = d ∨ c ∈ ['.', '_'] ∧ d ∈ ['.', '_']) a.toList b.toList

instance (a b : String) : Decidable (LookAlike a b) :=
  inferInstanceAs (Decidable (List.Forall₂ _ a.toList b.toList))

theorem flatName_eq_iff {a b : String} : flatName a = flatName b ↔ LookAlike a b := by
  have character (c d : Char) : ((if c = '.' then '_' else c) = if d = '.' then '_' else d) ↔
      c = d ∨ c ∈ ['.', '_'] ∧ d ∈ ['.', '_'] := by
    simp only [List.mem_cons, List.not_mem_nil, or_false]
    by_cases left : c = '.'
    · by_cases right : d = '.'
      · simp [left, right]
      · simp [left, right, eq_comm]
    · by_cases right : d = '.'
      · simp [left, right]
      · simpa [left, right] using fun (cMark : c = '_') (dMark : d = '_') =>
          cMark.trans dMark.symm
  have characters {cs ds : List Char} : cs = ds ↔ List.Forall₂ Eq cs ds := by
    rw [List.forall₂_eq_eq_eq]
  rw [flatName, flatName, String.ofList_inj, characters, List.forall₂_map_left_iff,
    List.forall₂_map_right_iff, LookAlike]
  simp only [character]

private theorem flatName_eq_self {name : String} (plain : '.' ∉ name.toList) :
    flatName name = name := by
  have kept : ∀ c ∈ name.toList, (if c = '.' then '_' else c) = c := by
    intro c member
    exact if_neg (ne_of_mem_of_not_mem member plain)
  rw [flatName, List.map_congr_left kept, List.map_id', String.ofList_toList]

private theorem length_flatName (name : String) : (flatName name).length = name.length := by
  rw [flatName, String.length_ofList, List.length_map, String.length_toList]

private theorem validatorClass_eq (m : Message) :
    validatorClass m = flatName m.name ++ "Validator" :=
  rfl

/-- The names of the classes of a unit, the outer one first. -/
def classNames (unit : OutputUnit) : List String :=
  unit.name :: unit.messages.map validatorClass

theorem classNames_nodup_iff {file : File} {messages : List Message} {owner : String} :
    (classNames (validatorFile file messages owner)).Nodup ↔
      (∀ m ∈ messages, flatName m.name ≠ owner) ∧
        messages.Pairwise fun m n => ¬ LookAlike m.name n.name := by
  have apart : owner ++ "Validator" ∉ messages.map validatorClass ↔
      ∀ m ∈ messages, flatName m.name ≠ owner := by
    simp only [List.mem_map, validatorClass_eq, String.append_left_inj, not_exists, not_and, ne_eq]
  have different : (messages.map validatorClass).Nodup ↔
      messages.Pairwise fun m n => ¬ LookAlike m.name n.name := by
    simp only [List.Nodup, List.pairwise_map, validatorClass_eq, ne_eq, String.append_left_inj,
      flatName_eq_iff]
  rw [classNames, List.nodup_cons, ← apart, ← different]
  rfl

theorem topLevelUnits_mem {file : File} {tops : List Message} {units : List OutputUnit}
    (split : topLevelUnits file tops = .ok units) : ∀ unit ∈ units, ∃ top ∈ tops, ∃ messages,
      OutputUnit.validated (family file top) = .ok messages ∧
        unit = validatorFile file messages top.name := by
  induction tops generalizing units with
  | nil =>
      cases split
      exact fun _ member => absurd member List.not_mem_nil
  | cons top tops ih =>
      simp only [topLevelUnits, bind_eq_ok_iff, pure_eq_ok_iff] at split
      obtain ⟨messages, read, rest, later, rfl⟩ := split
      have inRest : ∀ unit ∈ rest, ∃ other ∈ top :: tops, ∃ messages,
          OutputUnit.validated (family file other) = .ok messages ∧
            unit = validatorFile file messages other.name := by
        intro unit member
        obtain ⟨other, inside, found⟩ := ih later unit member
        exact ⟨other, List.mem_cons_of_mem top inside, found⟩
      split
      · exact inRest
      · refine List.forall_mem_cons.mpr ⟨?_, inRest⟩
        exact ⟨top, List.mem_cons_self, messages, read, rfl⟩

/-- Of the messages that go into the file of a top-level one, none but that message itself is called
like the file. -/
private theorem flatName_eq_iff_of_mem_family {file : File}
    (nodup : (file.messages.map Message.name).Nodup) {top m : Message}
    (declared : top ∈ file.messages) (plain : isTopLevel top = true)
    (member : m ∈ family file top) :
    flatName m.name = top.name ↔ m = top := by
  have plain : '.' ∉ top.name.toList := by simpa [isTopLevel] using plain
  constructor
  · intro same
    obtain ⟨inside, related⟩ := List.mem_filter.mp member
    rcases Bool.or_eq_true_iff.mp related with equal | below
    · exact List.inj_on_of_nodup_map nodup inside declared (eq_of_beq equal)
    · obtain ⟨rest, found⟩ := Option.isSome_iff_exists.mp below
      have longer := congrArg String.length (Text.after?_eq_some_iff.mp found)
      have equal := congrArg String.length same
      rw [String.length_append, String.length_append, show ".".length = 1 from rfl] at longer
      rw [length_flatName] at equal
      omega
  · rintro rfl
    exact flatName_eq_self plain

theorem forall_flatName_ne_iff {file : File} (nodup : (file.messages.map Message.name).Nodup)
    {top : Message} (declared : top ∈ file.messages) (plain : isTopLevel top = true)
    {messages : List Message} (read : OutputUnit.validated (family file top) = .ok messages) :
    (∀ m ∈ messages, flatName m.name ≠ top.name) ↔ top.isIgnored = .ok true := by
  have own : top ∈ family file top := List.mem_filter.mpr ⟨declared, by simp⟩
  have absent : (∀ m ∈ messages, flatName m.name ≠ top.name) ↔ top ∉ messages := by
    constructor
    · intro different kept
      exact different top kept ((flatName_eq_iff_of_mem_family nodup declared plain own).mpr rfl)
    · intro missing m kept same
      have inFamily := ((OutputUnit.mem_validated_iff read).mp kept).1
      rw [flatName_eq_iff_of_mem_family nodup declared plain inFamily] at same
      exact missing (same ▸ kept)
  obtain ⟨ignored, flag⟩ := OutputUnit.isIgnored_of_validated read own
  rw [absent, OutputUnit.mem_validated_iff read, and_iff_right own, flag]
  cases ignored <;> simp

/-- The classes of a unit have different names exactly if no two of its messages look alike and
none of them is called like the outer class. Where files are split by top-level messages, the
latter is so only for a message that is itself ignored. -/
theorem classNames_distinct_iff {file : File} (nodup : (file.messages.map Message.name).Nodup)
    {units : List OutputUnit} (written : Java.units file = .ok units) :
    ∀ unit ∈ units, if file.options.javaMultipleFiles then
      ∃ top ∈ file.messages, isTopLevel top = true ∧ unit.name = top.name ++ "Validator" ∧
        ((classNames unit).Nodup ↔ top.isIgnored = .ok true ∧
          unit.messages.Pairwise fun m n => ¬ LookAlike m.name n.name)
    else
      unit.name = outerClass file ++ "Validator" ∧
        ((classNames unit).Nodup ↔ (∀ m ∈ unit.messages, flatName m.name ≠ outerClass file) ∧
          unit.messages.Pairwise fun m n => ¬ LookAlike m.name n.name) := by
  unfold Java.units at written
  split at written
  · rename_i multiple
    intro unit member
    obtain ⟨top, inside, messages, read, rfl⟩ := topLevelUnits_mem written unit member
    obtain ⟨declared, plain⟩ := List.mem_filter.mp inside
    rw [if_pos multiple]
    refine ⟨top, declared, plain, rfl, ?_⟩
    rw [classNames_nodup_iff, forall_flatName_ne_iff nodup declared plain read]
    rfl
  · rename_i single
    simp only [bind_eq_ok_iff, pure_eq_ok_iff] at written
    obtain ⟨messages, _, rfl⟩ := written
    refine List.forall_mem_singleton.mpr ?_
    rw [if_neg single]
    exact ⟨rfl, classNames_nodup_iff⟩

/-! A file for messages inside an ignored one, and a file that is called like its message. -/

def boxFile (multiple : Bool) : File where
  name := "boxes.proto"
  options := { javaMultipleFiles := multiple }
  messages := [
    { name := "Box", extensions := Extensions.insert {} Extensions.ignoredKey (.bool true) },
    { name := "Box.Lid" }, { name := "Box.Lid_Hinge" }]

theorem boxFile_classNames_distinct :
    ((boxFile false).messages.map Message.name).Nodup ∧
      (∃ unit, Java.units (boxFile false) = .ok [unit] ∧ (classNames unit).Nodup) ∧
    ((boxFile true).messages.map Message.name).Nodup ∧
      ∃ unit, Java.units (boxFile true) = .ok [unit] ∧ (classNames unit).Nodup := by
  have nodup : ∀ multiple, ((boxFile multiple).messages.map Message.name).Nodup := by decide
  refine ⟨nodup false, ⟨_, rfl, ?_⟩, nodup true, ⟨_, rfl, ?_⟩⟩
  · obtain ⟨_, distinct⟩ := classNames_distinct_iff (nodup false) rfl _ List.mem_cons_self
    exact distinct.mpr ⟨by decide, by decide⟩
  · obtain ⟨top, declared, plain, _, distinct⟩ :=
      classNames_distinct_iff (nodup true) rfl _ List.mem_cons_self
    have ignored : top.isIgnored = .ok true := by
      rcases List.mem_cons.mp declared with rfl | nested
      · rfl
      · have below : ∀ m ∈ (boxFile true).messages.tail, isTopLevel m = false := by decide
        rw [below top nested] at plain
        cases plain
    exact distinct.mpr ⟨ignored, by decide⟩

def userFile (multiple : Bool) : File where
  name := "user.proto"
  package := "acme"
  options := { javaMultipleFiles := multiple }
  messages := [{ name := "User" }]

def twinFile : File where
  name := "twins.proto"
  messages := [{ name := "Box" }, { name := "Box.Lid" }, { name := "Box_Lid" }]

/-- A class inside a class of the same name, however files are split, and two of the same name side
by side. -/
theorem userFile_class_inside_itself :
    (∀ multiple, ((userFile multiple).messages.map Message.name).Nodup ∧
      ∃ unit, Java.units (userFile multiple) = .ok [unit] ∧
        classNames unit = ["UserValidator", "UserValidator"] ∧ ¬ (classNames unit).Nodup) ∧
    (twinFile.messages.map Message.name).Nodup ∧
      ∃ unit, Java.units twinFile = .ok [unit] ∧
        classNames unit =
          ["TwinsValidator", "BoxValidator", "Box_LidValidator", "Box_LidValidator"] ∧
        ¬ (classNames unit).Nodup := by
  refine ⟨fun multiple => ?_, by decide, _, rfl, rfl, by decide⟩
  cases multiple with
  | false => exact ⟨by decide, _, rfl, rfl, by decide⟩
  | true => exact ⟨by decide, _, rfl, rfl, by decide⟩

end Java

end ProtoRules
