import ProtoRules.Emit.JavaName
import ProtoRules.Proofs.Brackets
import ProtoRules.Proofs.CheckedContexts
import ProtoRules.Proofs.Lookup

/-!
Plain names. Where no name of a file holds a bracket, a quote, a backslash or a line break, none
of the names that are made from them does: those of classes, of packages and of accessors in Java.
-/

namespace ProtoRules.Java

open Text

variable {s t name : String}

/-- Whether a run of mappings leads to no mark: it ends up beyond all of them, or it is the mapping
of one character to a letter. -/
def sparesMarks (r : CaseRun) : Bool :=
  126 ≤ r.first + r.shift || (r.first == r.last && Char.ofNat (r.first + r.shift).toNat ∉ marks)

private theorem not_mem_marks_of_le {n : Nat} (beyond : 126 ≤ n) : Char.ofNat n ∉ marks := by
  by_cases valid : n.isValidChar
  · intro member
    have low : marks.all (·.toNat < 126) = true := by decide
    have value : (Char.ofNat n).toNat = n := by
      rw [Char.ofNat, dif_pos valid]
      rfl
    have small := of_decide_eq_true (List.all_eq_true.mp low _ member)
    omega
  · rw [Char.ofNat, dif_neg valid]
    decide

private theorem not_mem_marks_of_shifted {runs : List CaseRun} (all : runs.all sparesMarks = true)
    {n : Nat} (beyond : 126 ≤ n) : Char.ofNat (shifted runs n) ∉ marks := by
  unfold shifted
  split
  · rename_i r found
    have member := List.mem_of_find?_eq_some found
    have inside := List.find?_some found
    have spared := List.all_eq_true.mp all r member
    simp only [Bool.and_eq_true, decide_eq_true_eq] at inside
    simp only [sparesMarks, Bool.or_eq_true, decide_eq_true_eq, Bool.and_eq_true,
      beq_iff_eq] at spared
    rcases spared with high | ⟨single, other⟩
    · apply not_mem_marks_of_le
      omega
    · have only : n = r.first := by omega
      rw [only]
      exact other
  · exact not_mem_marks_of_le beyond

private theorem not_mem_marks_of_mem_lowerChar {c : Char} (plain : c ∉ marks) :
    ∀ d ∈ lowerChar c, d ∉ marks := by
  unfold lowerChar
  split_ifs with ascii dotted
  · have all : ∀ n : Fin 128, Char.ofNat n ∉ marks → (Char.ofNat n).toLower ∉ marks := by decide
    have here := all ⟨c.toNat, ascii⟩
    simp only [Char.ofNat_toNat] at here
    exact List.forall_mem_singleton.mpr (here plain)
  · exact List.forall_mem_cons.mpr ⟨by decide, List.forall_mem_singleton.mpr (by decide)⟩
  · have table : lowerRuns.all sparesMarks = true := by decide +kernel
    exact List.forall_mem_singleton.mpr (not_mem_marks_of_shifted table (by omega))

private theorem not_mem_marks_of_mem_upperChar {c : Char} (plain : c ∉ marks) :
    ∀ d ∈ upperChar c, d ∉ marks := by
  unfold upperChar
  split_ifs with ascii
  · have all : ∀ n : Fin 128, Char.ofNat n ∉ marks → (Char.ofNat n).toUpper ∉ marks := by decide
    have here := all ⟨c.toNat, ascii⟩
    simp only [Char.ofNat_toNat] at here
    exact List.forall_mem_singleton.mpr (here plain)
  · split
    · rename_i ns found
      have table : upperSpecials.all (·.2.all fun n => Char.ofNat n ∉ marks) = true := by
        decide +kernel
      have entry := List.all_eq_true.mp table _ (List.mem_of_find?_eq_some found)
      exact List.forall_mem_map.mpr fun n inside =>
        of_decide_eq_true (List.all_eq_true.mp entry n inside)
    · have table : upperRuns.all sparesMarks = true := by decide +kernel
      exact List.forall_mem_singleton.mpr (not_mem_marks_of_shifted table (by omega))

/-- A change of case makes no mark of what is none. -/
private theorem plain_caseClosed : CaseClosed (· ∉ marks) where
  lowered _ plain := not_mem_marks_of_mem_lowerChar plain
  raised _ plain := not_mem_marks_of_mem_upperChar plain
  sigma _ := by decide

theorem Plain.pascal (plain : Plain name) : Plain (pascal name) :=
  plain_caseClosed.pascal plain

theorem Plain.camel (plain : Plain name) : Plain (camel name) :=
  plain_caseClosed.camel plain

theorem Plain.toUpper (plain : Plain name) : Plain (toUpper name) :=
  plain_caseClosed.toUpper plain

private theorem mem_of_mem_pieces {sep : Char} {cs piece : List Char}
    (member : piece ∈ pieces sep cs) :
    ∀ c ∈ piece, c ∈ cs := by
  induction cs generalizing piece with
  | nil =>
      rw [List.mem_singleton.mp member]
      exact fun c inside => absurd inside List.not_mem_nil
  | cons d cs ih =>
      intro c inside
      rw [pieces] at member
      split at member
      · rcases List.mem_cons.mp member with rfl | later
        · cases inside
        · exact List.mem_cons_of_mem d (ih later c inside)
      · obtain ⟨p, ps, rest⟩ := List.exists_cons_of_ne_nil (pieces_ne_nil sep cs)
        rw [rest] at member ih
        rcases List.mem_cons.mp member with rfl | later
        · rcases List.mem_cons.mp inside with rfl | inside
          · exact List.mem_cons_self
          · exact List.mem_cons_of_mem d (ih List.mem_cons_self c inside)
        · exact List.mem_cons_of_mem d (ih (List.mem_cons_of_mem p later) c inside)

theorem Plain.lastPiece (plain : Plain name) (sep : Char) : Plain (lastPiece sep name) := by
  unfold Text.lastPiece splitOn
  rw [List.getLast?_map]
  cases last : (pieces sep name.toList).getLast? with
  | none => exact plain
  | some piece =>
      intro c inside
      have inside : c ∈ piece := by simpa using inside
      exact plain c (mem_of_mem_pieces (List.mem_of_getLast? last) c inside)

private theorem Plain.of_append_left (plain : Plain (s ++ t)) : Plain s := by
  rw [Plain, String.toList_append] at plain
  exact (List.forall_mem_append.mp plain).1

private theorem Plain.of_append_right (plain : Plain (s ++ t)) : Plain t := by
  rw [Plain, String.toList_append] at plain
  exact (List.forall_mem_append.mp plain).2

theorem Plain.after? (plain : Plain name) (start : String) :
    Plain ((after? start name).getD name) := by
  cases found : Text.after? start name with
  | none => exact plain
  | some rest =>
      rw [after?_eq_some_iff.mp found] at plain
      exact plain.of_append_right

theorem Plain.undot (plain : Plain name) : Plain (undot name) :=
  plain.after? "."

theorem Plain.stem {file : File} (plain : Plain file.name) : Plain file.stem := by
  have base := plain.lastPiece '/'
  unfold File.stem
  dsimp only
  cases found : before? ".proto" (Text.lastPiece '/' file.name) with
  | none => exact base
  | some rest =>
      rw [before?_eq_some_iff.mp found] at base
      exact base.of_append_left

theorem Plain.intercalate {items : List String} (plain : Plain s)
    (each : ∀ item ∈ items, Plain item) : Plain (s.intercalate items) := by
  rw [Plain, String.toList_intercalate]
  exact forall_mem_intercalate plain (List.forall_mem_map.mpr each)

end ProtoRules.Java

namespace ProtoRules

open Java (Plain)

def TypedRules.errors : TypedRules FieldRules → List (Option ErrorSpec)
  | .value v => v.errors
  | .repeated rules => rules.map RepeatedRule.error
  | .map rules => rules.map MapRule.error

/-- The errors that a field declares for itself. Those for the positions inside are never written,
since what fails there raises an error of the field. -/
def FieldRules.errors (rules : FieldRules) : List (Option ErrorSpec) :=
  (rules.typed.map TypedRules.errors).getD [] ++ [rules.message.bind MessageRules.error]

/-- No name in a message, no class of errors and no method that makes one holds a mark. -/
structure Message.PlainNames (m : Message) : Prop where
  name : Plain m.name
  fields : ∀ f ∈ m.fields, Plain f.name
  oneofs : ∀ o ∈ m.oneofs, Plain o.name
  owner : ∀ base, m.errorBase = .ok (some base) → Plain base.owner
  errors : ∀ f ∈ m.fields, ∀ rules, f.rules = .ok (some rules) →
    ∀ spec, some spec ∈ rules.errors → Plain spec.method
  missing : ∀ o ∈ m.oneofs, ∀ rules, o.rules = .ok (some rules) →
    ∀ spec ∈ rules.error, Plain spec.method

structure File.PlainNames (f : File) : Prop where
  name : Plain f.name
  package : Plain f.package
  javaPackage : ∀ package ∈ f.options.javaPackage, Plain package
  outerClass : ∀ name ∈ f.options.javaOuterClassname, Plain name
  enums : ∀ e ∈ f.enums, Plain e.name
  messages : ∀ m ∈ f.messages, m.PlainNames

namespace File.PlainNames

variable {file : File} {name : String}

theorem ofPackage (names : file.PlainNames) : Plain (Java.package file) := by
  unfold Java.package
  cases given : file.options.javaPackage with
  | none => exact names.package
  | some package => exact names.javaPackage package given

theorem ofOuterClass (names : file.PlainNames) : Plain (Java.outerClass file) := by
  unfold Java.outerClass
  cases given : file.options.javaOuterClassname with
  | none => exact names.name.stem.pascal
  | some name => exact names.outerClass name given

theorem fullName (names : file.PlainNames) (plain : Plain name) : Plain (file.fullName name) := by
  unfold File.fullName
  split
  · exact plain
  · exact (names.package.append (by decide)).append plain

theorem localName (file : File) (plain : Plain name) : Plain (file.localName name) := by
  unfold File.localName
  split
  · exact plain
  · exact plain.after? _

end File.PlainNames

namespace Java

variable {files : List File} {fullName type : String}

private theorem mem_files_of_declaringFile? {name : String} {file : File}
    (declared : (Schema.ofFiles files).declaringFile? name = some file) : file ∈ files := by
  obtain ⟨position, _, there⟩ := Option.bind_eq_some_iff.mp declared
  exact List.mem_of_getElem? there

theorem plain_qualified (names : ∀ file ∈ files, file.PlainNames)
    (plain : Plain (Text.undot fullName))
    (found : qualified (Schema.ofFiles files) fullName = .ok type) : Plain type := by
  unfold qualified at found
  dsimp only at found
  split at found
  · cases found
  · rename_i file declared
    cases found
    have own := names file (mem_files_of_declaringFile? declared)
    refine Plain.intercalate (by decide) ?_
    refine List.forall_mem_append.mpr ⟨List.forall_mem_append.mpr ⟨?_, ?_⟩, ?_⟩
    · split
      · exact fun item member => absurd member List.not_mem_nil
      · exact List.forall_mem_singleton.mpr own.ofPackage
    · split
      · exact fun item member => absurd member List.not_mem_nil
      · exact List.forall_mem_singleton.mpr own.ofOuterClass
    · exact List.forall_mem_singleton.mpr (File.PlainNames.localName file plain)

/-- An enum that is found goes by the name that it is declared by. -/
private theorem plain_undot_of_enumeration (names : ∀ file ∈ files, file.PlainNames) {name : String}
    {e : Enum} (found : (Schema.ofFiles files).enumeration name = .ok e) :
    Plain (Text.undot name) := by
  unfold Schema.enumeration at found
  cases position : Dictionary.find? (Text.undot name) (Schema.ofFiles files).enums with
  | none =>
      rw [position] at found
      cases found
  | some p =>
      have position : Dictionary.find? (Text.undot name)
          (Dictionary.ofList (Schema.declarations File.enums Enum.name files)) = some p := position
      rw [Dictionary.find?_ofList] at position
      obtain ⟨⟨key, _⟩, first, rfl⟩ := Option.map_eq_some_iff.mp position
      have same := List.find?_some first
      rw [beq_iff_eq] at same
      have member := List.mem_reverse.mp (List.mem_of_find?_eq_some first)
      obtain ⟨file, declared, inFiles, inFile, spelled⟩ :=
        Schema.exists_of_mem_declarations member
      have own := names file (List.mem_of_getElem? inFiles)
      rw [← same, spelled]
      exact own.fullName (own.enums declared (List.mem_of_getElem? inFile))

theorem plain_enumClass (names : ∀ file ∈ files, file.PlainNames) {c : Context}
    (found : enumClass (Schema.ofFiles files) c = .ok type) : Plain type := by
  unfold enumClass at found
  split at found
  · cases found
  · rename_i name _
    obtain ⟨⟨⟩, looked, found⟩ := bind_eq_ok_iff.mp found
    obtain ⟨e, declared⟩ := discard_eq_ok_iff.mp looked
    have declared := SchemaError.render_eq_ok_iff.mp declared
    exact plain_qualified names (plain_undot_of_enumeration names declared) found

theorem plain_validatorClass {m : Message} (plain : Plain m.name) : Plain (validatorClass m) := by
  refine Plain.append ?_ (by decide)
  unfold Plain
  rw [String.toList_ofList]
  refine List.forall_mem_map.mpr fun c member => ?_
  split
  · decide
  · exact plain c member

end Java

end ProtoRules
