import Mathlib.Data.List.Forall2
import ProtoRules.Check.Checker
import ProtoRules.Emit.JavaClass
import ProtoRules.Emit.RustMethod

/-!
Outlines of files: their names, packages, options and enums, and the names of their messages. What
is looked up in a schema is found in the outlines alone, and so are the names that validators are
written with; the bodies of other messages are never read.
-/

namespace ProtoRules

structure File.SameOutline (f g : File) : Prop where
  name : f.name = g.name
  package : f.package = g.package
  options : f.options = g.options
  enums : f.enums = g.enums
  messages : f.messages.map Message.name = g.messages.map Message.name

namespace File.SameOutline

variable {f g : File}

theorem fullName (same : f.SameOutline g) (declared : String) :
    f.fullName declared = g.fullName declared := by
  rw [File.fullName, File.fullName, same.package]

theorem localName (same : f.SameOutline g) (name : String) :
    f.localName name = g.localName name := by
  rw [File.localName, File.localName, same.package]

theorem stem (same : f.SameOutline g) : f.stem = g.stem := by
  rw [File.stem, File.stem, same.name]

theorem javaPackage (same : f.SameOutline g) : Java.package f = Java.package g := by
  rw [Java.package, Java.package, same.options, same.package]

theorem outerClass (same : f.SameOutline g) : Java.outerClass f = Java.outerClass g := by
  rw [Java.outerClass, Java.outerClass, same.options, same.stem]

end File.SameOutline

namespace Schema

variable {s t : Schema}

structure SameOutlines (s t : Schema) : Prop where
  files : List.Forall₂ File.SameOutline s.files t.files
  messages : s.messages = t.messages
  enums : s.enums = t.enums

section Declarations

variable {α : Type} {select : File → List α} {name : α → String}

private theorem entries_eq {f g : File} (package : f.package = g.package)
    (names : (select f).map name = (select g).map name) (i : Nat) :
    ((select f).zipIdx.map fun (a, k) => (f.fullName (name a), (⟨i, k⟩ : Position))) =
      (select g).zipIdx.map fun (a, k) => (g.fullName (name a), ⟨i, k⟩) := by
  have numbered (h : File) : ((select h).zipIdx.map fun (a, k) =>
      (h.fullName (name a), (⟨i, k⟩ : Position))) =
        ((select h).map name).zipIdx.map fun (n, k) => (h.fullName n, ⟨i, k⟩) := by
    rw [List.zipIdx_map, List.map_map]
    rfl
  have fullName : f.fullName = g.fullName := funext fun declared => by
    rw [File.fullName, File.fullName, package]
  rw [numbered f, numbered g, names, fullName]

private theorem entriesFrom_eq {fs gs : List File} (same : List.Forall₂ (fun f g =>
      f.package = g.package ∧ (select f).map name = (select g).map name) fs gs) (first : Nat) :
    ((fs.zipIdx first).flatMap fun (f, i) =>
      (select f).zipIdx.map fun (a, k) => (f.fullName (name a), (⟨i, k⟩ : Position))) =
        (gs.zipIdx first).flatMap fun (g, i) =>
          (select g).zipIdx.map fun (a, k) => (g.fullName (name a), ⟨i, k⟩) := by
  induction same generalizing first with
  | nil => rfl
  | cons outline _ ih =>
      rw [List.zipIdx_cons, List.zipIdx_cons, List.flatMap_cons, List.flatMap_cons]
      exact congrArg₂ (· ++ ·) (entries_eq outline.1 outline.2 first) (ih (first + 1))

private theorem declarations_eq {fs gs : List File}
    (same : List.Forall₂ (fun f g => f.package = g.package ∧
      (select f).map name = (select g).map name) fs gs) :
    declarations select name fs = declarations select name gs :=
  entriesFrom_eq same 0

end Declarations

theorem sameOutlines_ofFiles {fs gs : List File} (same : List.Forall₂ File.SameOutline fs gs) :
    (ofFiles fs).SameOutlines (ofFiles gs) where
  files := same
  messages := congrArg Dictionary.ofList
    (declarations_eq (same.imp fun _ _ outline => ⟨outline.package, outline.messages⟩))
  enums := congrArg Dictionary.ofList
    (declarations_eq (same.imp fun _ _ outline => ⟨outline.package, by rw [outline.enums]⟩))

private theorem rel_getElem? {α β : Type} {R : α → β → Prop} {as : List α} {bs : List β}
    (same : List.Forall₂ R as bs) (i : Nat) : Option.Rel R as[i]? bs[i]? := by
  induction same generalizing i with
  | nil => exact .none
  | cons first _ ih =>
      cases i with
      | zero => exact .some first
      | succ i => exact ih i

theorem SameOutlines.declaringFile? (same : s.SameOutlines t) (name : String) :
    Option.Rel File.SameOutline (s.declaringFile? name) (t.declaringFile? name) := by
  rw [Schema.declaringFile?, Schema.declaringFile?, same.messages, same.enums]
  cases Dictionary.find? (Text.undot name) t.messages <|>
      Dictionary.find? (Text.undot name) t.enums with
  | none => exact .none
  | some position => exact rel_getElem? same.files position.file

private theorem enumeration_eq (files : List.Forall₂ (fun f g => f.enums = g.enums) s.files t.files)
    (enums : s.enums = t.enums) : s.enumeration = t.enumeration := by
  funext name
  rw [Schema.enumeration, Schema.enumeration, enums]
  cases Dictionary.find? (Text.undot name) t.enums with
  | none => rfl
  | some position =>
      have files := rel_getElem? files position.file
      simp only [Option.bind_some, at?]
      generalize s.files[position.file]? = left at files ⊢
      generalize t.files[position.file]? = right at files ⊢
      cases files with
      | none => rfl
      | @some f g enums =>
          simp only [Option.bind_eq_bind, Option.bind_some, enums]
          cases g.enums[position.entry]? <;> rfl

theorem SameOutlines.enumeration (same : s.SameOutlines t) : s.enumeration = t.enumeration :=
  enumeration_eq (same.files.imp fun _ _ outline => outline.enums) same.enums

theorem enumeration_ofFiles {fs gs : List File} (same : List.Forall₂ (fun f g =>
      f.package = g.package ∧ f.enums = g.enums) fs gs) :
    (ofFiles fs).enumeration = (ofFiles gs).enumeration :=
  enumeration_eq (same.imp fun _ _ => And.right) (congrArg Dictionary.ofList
    (declarations_eq (same.imp fun _ _ ⟨package, enums⟩ => ⟨package, by rw [enums]⟩)))

end Schema

section Checks

variable {s t : Schema} (same : s.enumeration = t.enumeration)
include same

private theorem checkEnum_eq : checkEnum s = checkEnum t := by
  funext name inject rules
  simp only [checkEnum, EnumRule.checkDefined, same]

private theorem checkElement_eq : checkElement s = checkElement t := by
  have values : checkValueRules s = checkValueRules t := by
    funext element inject rules
    cases rules with
    | enum rules => simp only [checkValueRules, checkEnum_eq same]
    | _ => rfl
  funext element rules inject
  simp only [checkElement, values]

private theorem checkRules_eq : checkRules s = checkRules t := by
  have nested : checkNested s = checkNested t := by
    funext segment element rules
    simp only [checkNested, checkElement_eq same]
  have repeated : checkRepeated s = checkRepeated t := by
    funext element inject rules
    simp only [checkRepeated, nested]
  have map : checkMap s = checkMap t := by
    funext key value inject rules
    simp only [checkMap, nested]
  funext shape rules inject
  cases shape with
  | single element => rw [checkRules, checkRules, checkElement_eq same]
  | repeated element => rw [checkRules, checkRules, repeated]
  | map key value => rw [checkRules, checkRules, map]

theorem checkDeclarations_eq : checkDeclarations s = checkDeclarations t := by
  have field : checkField s = checkField t := by
    funext field
    simp only [checkField, checkRules_eq same]
  funext message
  simp only [checkDeclarations, field]

end Checks

namespace Java

variable {s t : Schema} (same : s.SameOutlines t)
include same

theorem qualified_eq : qualified s = qualified t := by
  funext fullName
  have files := same.declaringFile? (Text.undot fullName)
  simp only [qualified]
  generalize s.declaringFile? (Text.undot fullName) = left at files ⊢
  generalize t.declaringFile? (Text.undot fullName) = right at files ⊢
  cases files with
  | none => rfl
  | some outline =>
      simp only [outline.javaPackage, outline.outerClass, outline.options, outline.localName]

private theorem enumClass_eq : enumClass s = enumClass t := by
  funext c
  simp only [enumClass, same.enumeration, qualified_eq same]

private theorem constantsPass_eq : constantsPass s = constantsPass t := by
  have values : valueConstants s = valueConstants t := by
    funext c rules
    cases rules with
    | enum rules => simp only [valueConstants, enumClass_eq same]
    | _ => rfl
  rw [constantsPass, constantsPass, values]

private theorem statementsPass_eq : statementsPass s = statementsPass t := by
  have values : valueStatements s = valueStatements t := by
    funext c rules
    cases rules with
    | enum rules => simp only [valueStatements, enumClass_eq same]
    | _ => rfl
  rw [statementsPass, statementsPass, values]

theorem ofMessage_eq : ClassBody.ofMessage s = ClassBody.ofMessage t := by
  have plain : ClassBody.ofPlainFields s = ClassBody.ofPlainFields t := by
    funext message fields
    induction fields with
    | nil => rfl
    | cons field fields ih =>
        simp only [ClassBody.ofPlainFields, constantsPass_eq same, statementsPass_eq same, ih]
  have constants : ClassBody.oneofConstants s = ClassBody.oneofConstants t := by
    funext message oneof
    simp only [ClassBody.oneofConstants, constantsPass_eq same]
  have switch : ClassBody.oneofSwitch s = ClassBody.oneofSwitch t := by
    funext message oneof
    simp only [ClassBody.oneofSwitch, ClassBody.oneofCase, statementsPass_eq same]
  have oneofs : ClassBody.ofOneofs s = ClassBody.ofOneofs t := by
    funext message oneofs
    induction oneofs with
    | nil => rfl
    | cons oneof oneofs ih => simp only [ClassBody.ofOneofs, constants, switch, ih]
  funext message
  rw [ClassBody.ofMessage, ClassBody.ofMessage, plain, oneofs]

end Java

namespace Rust

variable {s t : Schema} (same : s.SameOutlines t)
include same

theorem typePath_eq : typePath s = typePath t := by
  funext package fullName
  have files := same.declaringFile? (Text.undot fullName)
  simp only [typePath]
  generalize s.declaringFile? (Text.undot fullName) = left at files ⊢
  generalize t.declaringFile? (Text.undot fullName) = right at files ⊢
  cases files with
  | none => rfl
  | some outline => simp only [outline.package, outline.localName]

private theorem checksPass_eq : checksPass s = checksPass t := by
  have values : valueTokens s = valueTokens t := by
    funext package c rules
    cases rules with
    | enum rules => simp only [valueTokens, same.enumeration, typePath_eq same]
    | _ => rfl
  funext package
  rw [checksPass, checksPass, values]

theorem bodyTokens_eq : bodyTokens s = bodyTokens t := by
  have plain : plainField s = plainField t := by
    funext package message field
    simp only [plainField, checksPass_eq same]
  have oneofs : oneofMatch s = oneofMatch t := by
    funext package message oneof
    have arms : memberArm s = memberArm t := by
      funext package message type field
      simp only [memberArm, checksPass_eq same]
    simp only [oneofMatch, arms]
  funext package message
  rw [bodyTokens, bodyTokens, plain, oneofs]

end Rust

end ProtoRules
