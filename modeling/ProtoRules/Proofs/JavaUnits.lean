import Mathlib.Data.List.Nodup
import Mathlib.Data.List.Perm.Lattice
import ProtoRules.Proofs.JavaClasses

/-!
Output units of Java as a partition of the messages of a file. A message goes with the outermost one
that it is declared in, whether that one is ignored or not; ignored messages go nowhere.
-/

namespace ProtoRules

namespace Message

variable {m : Message} {name : String}

/-- The name of the outermost message that a message is declared in, which may be its own. -/
def rootName (m : Message) : String :=
  String.ofList (m.name.toList.takeWhile (· != '.'))

private theorem not_mem_rootName (m : Message) : '.' ∉ m.rootName.toList := by
  intro member
  rw [rootName, String.toList_ofList] at member
  simpa using List.mem_takeWhile_imp member

theorem rootName_eq_iff (plain : '.' ∉ name.toList) :
    m.rootName = name ↔ m.name = name ∨ ∃ rest, m.name = name ++ "." ++ rest := by
  constructor
  · rintro rfl
    have split : m.name =
        m.rootName ++ String.ofList (m.name.toList.dropWhile (· != '.')) := by
      apply String.toList_inj.mp
      simp [rootName]
    cases later : m.name.toList.dropWhile (· != '.') with
    | nil =>
        rw [later] at split
        exact .inl (split.trans (String.append_empty))
    | cons c rest =>
        have stop := List.head?_dropWhile_not (· != '.') m.name.toList
        rw [later] at stop
        have dot : c = '.' := by simpa using stop
        refine .inr ⟨String.ofList rest, ?_⟩
        rw [later, dot] at split
        rw [split, String.append_assoc]
        congr 1
        apply String.toList_inj.mp
        simp
  · have other : ∀ c ∈ name.toList, (c != '.') = true := fun c member =>
      bne_iff_ne.mpr (ne_of_mem_of_not_mem member plain)
    rintro (rfl | ⟨rest, split⟩)
    · rw [rootName, List.takeWhile_eq_self_iff.mpr other, String.ofList_toList]
    · rw [rootName, split, String.toList_append, String.toList_append, List.append_assoc,
        List.takeWhile_append_of_pos other]
      simp

/-- Whether validators are written for a message. -/
def IsShown (m : Message) : Prop :=
  m.isIgnored = .ok false

instance (m : Message) : Decidable m.IsShown :=
  inferInstanceAs (Decidable (m.isIgnored = .ok false))

end Message

private theorem OutputUnit.validated_eq {ms : List Message}
    (flags : ∀ m ∈ ms, ∃ ignored, m.isIgnored = .ok ignored) :
    OutputUnit.validated ms = .ok (ms.filter fun m => m.IsShown) := by
  induction ms with
  | nil => rfl
  | cons m ms ih =>
      obtain ⟨⟨ignored, flag⟩, rest⟩ := List.forall_mem_cons.mp flags
      rw [validated, flag, ih rest, List.filter_cons]
      cases ignored <;> simp [Message.IsShown, flag, bind, Except.bind, pure, Except.pure]

namespace Java

variable {file : File} {top m : Message}

private theorem not_mem_of_isTopLevel (plain : isTopLevel top = true) : '.' ∉ top.name.toList := by
  simpa [isTopLevel] using plain

private theorem rootName_of_isTopLevel (plain : isTopLevel m = true) : m.rootName = m.name :=
  (Message.rootName_eq_iff (not_mem_of_isTopLevel plain)).mpr (.inl rfl)

private theorem family_eq (plain : isTopLevel top = true) :
    family file top = file.messages.filter fun m => m.rootName = top.name := by
  refine List.filter_congr fun m _ => ?_
  rw [Bool.eq_iff_iff, Bool.or_eq_true, beq_iff_eq, Option.isSome_iff_exists, decide_eq_true_eq,
    Message.rootName_eq_iff (not_mem_of_isTopLevel plain)]
  simp only [Text.after?_eq_some_iff]

/-- The messages that the unit of a top-level message holds. -/
def shownFamily (file : File) (top : Message) : List Message :=
  file.messages.filter fun m => m.IsShown ∧ m.rootName = top.name

theorem mem_shownFamily_iff : m ∈ shownFamily file top ↔
    m ∈ file.messages ∧ m.IsShown ∧ m.rootName = top.name := by
  simp [shownFamily]

def rootUnit (file : File) (top : Message) : OutputUnit :=
  validatorFile file (shownFamily file top) top.name

@[simp] theorem messages_rootUnit (file : File) (top : Message) :
    (rootUnit file top).messages = shownFamily file top := rfl

private theorem validated_family (plain : isTopLevel top = true)
    (flags : ∀ m ∈ family file top, ∃ ignored, m.isIgnored = .ok ignored) :
    OutputUnit.validated (family file top) = .ok (shownFamily file top) := by
  rw [OutputUnit.validated_eq flags, family_eq plain, List.filter_filter, shownFamily]
  simp only [Bool.decide_and]

theorem topLevelUnits_eq {tops : List Message} (plain : ∀ top ∈ tops, isTopLevel top = true)
    (flags : ∀ top ∈ tops, ∀ m ∈ family file top, ∃ ignored, m.isIgnored = .ok ignored) :
    topLevelUnits file tops =
      .ok ((tops.filter fun top => shownFamily file top ≠ []).map (rootUnit file)) := by
  induction tops with
  | nil => rfl
  | cons top tops ih =>
      obtain ⟨first, rest⟩ := List.forall_mem_cons.mp plain
      obtain ⟨firstFlags, restFlags⟩ := List.forall_mem_cons.mp flags
      rw [topLevelUnits, validated_family first firstFlags, ih rest restFlags]
      by_cases empty : shownFamily file top = [] <;>
        simp [empty, bind, Except.bind, pure, Except.pure, rootUnit]

theorem flags_of_topLevelUnits {tops : List Message} {units : List OutputUnit}
    (split : topLevelUnits file tops = .ok units) :
    ∀ top ∈ tops, ∀ m ∈ family file top, ∃ ignored, m.isIgnored = .ok ignored := by
  induction tops generalizing units with
  | nil => exact fun _ member => absurd member List.not_mem_nil
  | cons top tops ih =>
      simp only [topLevelUnits, bind_eq_ok_iff] at split
      obtain ⟨messages, read, rest, later, _⟩ := split
      refine List.forall_mem_cons.mpr ⟨fun m member => ?_, ih later⟩
      exact OutputUnit.isIgnored_of_validated read member

/-- Units that hold the shown messages of a file, split by the top-level messages that these are
declared in. -/
structure Partitions (file : File) (units : List OutputUnit) : Prop where
  once : ∀ m ∈ file.messages, m.IsShown → ∃! i : Fin units.length, m ∈ units[i].messages
  shown : ∀ unit ∈ units, ∀ m ∈ unit.messages, m.IsShown
  nonempty : ∀ unit ∈ units, unit.messages ≠ []
  together : (units.flatMap OutputUnit.messages).Perm (file.messages.filter fun m => m.IsShown)
  ordered : ∃ tops : List Message, tops.Sublist file.messages ∧
    (∀ top ∈ tops, isTopLevel top = true) ∧ units = tops.map (rootUnit file)

/-- The top-level messages that have a unit. -/
def unitRoots (file : File) : List Message :=
  (file.messages.filter isTopLevel).filter fun top => shownFamily file top ≠ []

theorem mem_unitRoots_iff : top ∈ unitRoots file ↔
    (top ∈ file.messages ∧ isTopLevel top = true) ∧ shownFamily file top ≠ [] := by
  rw [unitRoots, List.mem_filter, List.mem_filter, decide_eq_true_eq]

theorem unitRoots_sublist (file : File) : (unitRoots file).Sublist file.messages :=
  List.filter_sublist.trans List.filter_sublist

private theorem unitRoots_names_nodup (nodup : (file.messages.map Message.name).Nodup) :
    ((unitRoots file).map Message.name).Nodup :=
  nodup.sublist ((unitRoots_sublist file).map Message.name)

/-- No message is held by the units of two roots. -/
private theorem unitRoot_unique (nodup : (file.messages.map Message.name).Nodup) {other : Message}
    (topRoot : top ∈ unitRoots file) (otherRoot : other ∈ unitRoots file)
    (inTop : m ∈ shownFamily file top) (inOther : m ∈ shownFamily file other) : top = other := by
  have first : m.rootName = top.name := (mem_shownFamily_iff.mp inTop).2.2
  have second : m.rootName = other.name := (mem_shownFamily_iff.mp inOther).2.2
  exact List.inj_on_of_nodup_map (unitRoots_names_nodup nodup) topRoot otherRoot
    (first.symm.trans second)

section Roots

variable
  (roots : ∀ m ∈ file.messages, isTopLevel m = false → m.rootName ∈ file.messages.map Message.name)

include roots

private theorem exists_root (member : m ∈ file.messages) :
    ∃ top ∈ file.messages, isTopLevel top = true ∧ m.rootName = top.name := by
  cases plain : isTopLevel m with
  | true => exact ⟨m, member, plain, rootName_of_isTopLevel plain⟩
  | false =>
      obtain ⟨top, declared, same⟩ := List.mem_map.mp (roots m member plain)
      refine ⟨top, declared, ?_, same.symm⟩
      have free := m.not_mem_rootName
      rw [← same] at free
      simpa [isTopLevel] using free

private theorem exists_unitRoot (member : m ∈ file.messages) (shown : m.IsShown) :
    ∃ top ∈ unitRoots file, m ∈ shownFamily file top := by
  obtain ⟨top, declared, plain, root⟩ := exists_root roots member
  have inside : m ∈ shownFamily file top := mem_shownFamily_iff.mpr ⟨member, shown, root⟩
  exact ⟨top, mem_unitRoots_iff.mpr ⟨⟨declared, plain⟩, List.ne_nil_of_mem inside⟩, inside⟩

private theorem partitions_unitRoots (nodup : (file.messages.map Message.name).Nodup) :
    Partitions file ((unitRoots file).map (rootUnit file)) := by
  have rootsNodup : (unitRoots file).Nodup := (unitRoots_names_nodup nodup).of_map
  have messagesNodup : file.messages.Nodup := nodup.of_map
  constructor
  case once =>
    intro m member shown
    obtain ⟨top, root, inside⟩ := exists_unitRoot roots member shown
    obtain ⟨i, bound, found⟩ := List.mem_iff_getElem.mp root
    refine ⟨⟨i, by simpa using bound⟩, by simpa [found] using inside, ?_⟩
    rintro ⟨j, jBound⟩ other
    rw [List.length_map] at jBound
    have held : m ∈ shownFamily file (unitRoots file)[j] := by simpa using other
    have same : (unitRoots file)[j] = top :=
      unitRoot_unique nodup (List.getElem_mem _) root held inside
    exact Fin.ext (rootsNodup.getElem_inj_iff.mp (same.trans found.symm))
  case shown =>
    refine List.forall_mem_map.mpr fun top _ m inside => ?_
    exact (mem_shownFamily_iff.mp inside).2.1
  case nonempty =>
    exact List.forall_mem_map.mpr fun top root => (mem_unitRoots_iff.mp root).2
  case together =>
    rw [List.flatMap_map]
    refine (List.perm_ext_iff_of_nodup ?_ (messagesNodup.filter _)).mpr fun m => ?_
    · refine List.nodup_flatMap.mpr ⟨fun top _ => messagesNodup.filter _, ?_⟩
      refine rootsNodup.pairwise_of_forall_ne ?_
      intro top topRoot other otherRoot apart m first second
      exact apart (unitRoot_unique nodup topRoot otherRoot first second)
    · rw [List.mem_flatMap, List.mem_filter, decide_eq_true_eq]
      constructor
      · rintro ⟨top, _, inside⟩
        obtain ⟨member, shown, _⟩ := mem_shownFamily_iff.mp inside
        exact ⟨member, shown⟩
      · rintro ⟨member, shown⟩
        exact exists_unitRoot roots member shown
  case ordered =>
    exact ⟨unitRoots file, unitRoots_sublist file, fun top root => (mem_unitRoots_iff.mp root).1.2,
      rfl⟩

end Roots

/-- The units of a file hold the messages that are not ignored, each one once and in the order of
their declarations. If files are split there is one for every top-level message with anything to
hold, else there is one for the file. -/
theorem units_partition_messages
    (flags : ∀ m ∈ file.messages, ∃ ignored, m.isIgnored = .ok ignored)
    (nodup : (file.messages.map Message.name).Nodup)
    (roots : ∀ m ∈ file.messages, isTopLevel m = false →
      m.rootName ∈ file.messages.map Message.name) :
    ∃ units, Java.units file = .ok units ∧
      if file.options.javaMultipleFiles then Partitions file units
      else ∃ unit, units = [unit] ∧ unit.messages = file.messages.filter fun m => m.IsShown := by
  rw [Java.units]
  split
  · refine ⟨_, topLevelUnits_eq (fun top member => (List.mem_filter.mp member).2) ?_,
      partitions_unitRoots roots nodup⟩
    exact fun _ _ m member => flags m (List.mem_filter.mp member).1
  · rw [OutputUnit.validated_eq flags]
    exact ⟨_, rfl, _, rfl, rfl⟩

/-! Names that begin alike, a message before the one that it is declared in, and an ignored one with
another inside. -/

def ignoredMessage (name : String) : Message where
  name := name
  extensions := Extensions.insert {} Extensions.ignoredKey (.bool true)

def crateFile (multiple : Bool) : File where
  name := "crates.proto"
  options := { javaMultipleFiles := multiple }
  messages := [{ name := "Crate.Lid" }, { name := "CrateLid" }, ignoredMessage "Crate",
    ignoredMessage "CrateLid.Hinge", ignoredMessage "Box", { name := "Crate.Lid.Hinge" }]

theorem crateFile_partitioned :
    (∀ multiple, (∀ m ∈ (crateFile multiple).messages, ∃ ignored, m.isIgnored = .ok ignored) ∧
      ((crateFile multiple).messages.map Message.name).Nodup ∧
      ∀ m ∈ (crateFile multiple).messages, isTopLevel m = false →
        m.rootName ∈ (crateFile multiple).messages.map Message.name) ∧
    (∃ units, Java.units (crateFile true) = .ok units ∧ Partitions (crateFile true) units ∧
      units.map (fun unit => (unit.name, unit.messages.map Message.name)) =
        [("CrateLidValidator", ["CrateLid"]),
          ("CrateValidator", ["Crate.Lid", "Crate.Lid.Hinge"])]) ∧
    ∃ unit, Java.units (crateFile false) = .ok [unit] ∧
      unit.messages.map Message.name = ["Crate.Lid", "CrateLid", "Crate.Lid.Hinge"] := by
  have flags : ∀ multiple, ∀ m ∈ (crateFile multiple).messages,
      ∃ ignored, m.isIgnored = .ok ignored := by
    intro multiple
    simp only [crateFile, List.forall_mem_cons, List.not_mem_nil, false_implies, implies_true]
    exact ⟨⟨_, rfl⟩, ⟨_, rfl⟩, ⟨_, rfl⟩, ⟨_, rfl⟩, ⟨_, rfl⟩, ⟨_, rfl⟩, trivial⟩
  have nodup : ∀ multiple, ((crateFile multiple).messages.map Message.name).Nodup := by decide
  have roots : ∀ multiple, ∀ m ∈ (crateFile multiple).messages, isTopLevel m = false →
      m.rootName ∈ (crateFile multiple).messages.map Message.name := by decide
  refine ⟨fun multiple => ⟨flags multiple, nodup multiple, roots multiple⟩, ?_, ?_⟩
  · obtain ⟨units, split, partition⟩ :=
      units_partition_messages (flags true) (nodup true) (roots true)
    refine ⟨units, split, partition, ?_⟩
    cases split
    decide
  · obtain ⟨_, split, unit, rfl, held⟩ :=
      units_partition_messages (flags false) (nodup false) (roots false)
    refine ⟨unit, split, ?_⟩
    rw [held]
    decide

end Java

end ProtoRules
