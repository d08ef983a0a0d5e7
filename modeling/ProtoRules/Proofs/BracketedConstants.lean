import ProtoRules.Emit.JavaConstants
import ProtoRules.Proofs.BracketedPasses

/-!
Brackets of constants. The declarations for a field leave no bracket open: bounds, sets, compiled
patterns and errors are written as literals, whatever they are.
-/

namespace ProtoRules.Java

structure Constant.Tidy (k : Constant) : Prop where
  type : Balanced k.type
  name : Plain k.name
  value : Balanced k.value

theorem forall_mem_toList_map {α β : Type} {P : β → Prop} {f : α → β} (each : ∀ a, P (f a))
    (value : Option α) : ∀ b ∈ (value.map f).toList, P b := by
  cases value with
  | none => exact fun b member => absurd member List.not_mem_nil
  | some a => exact List.forall_mem_singleton.mpr (each a)

namespace Constant

variable {α : Type} {k : Constant} {c : Context} {type label : String} {name : String → String}
  {text : α → String}

theorem Tidy.balanced_line (tidy : k.Tidy) : Balanced k.line := by
  have front : Balanced "private final " := by decide
  have blank : Balanced " " := by decide
  have equals : Balanced " = " := by decide
  have stop : Balanced ";" := by decide
  have named := ((front.append tidy.type).append blank).append tidy.name.balanced
  exact ((named.append equals).append tidy.value).append stop

private theorem tidy_array {items : List String} (typed : Plain type) (named : Plain label)
    (each : ∀ item ∈ items, Balanced item) : ∀ k ∈ array type label items, k.Tidy := by
  have brackets : Balanced "[]" := by decide
  have create : Plain ("new " ++ type) := Plain.append (by decide) typed
  have listed : Balanced (", ".intercalate items) := balanced_intercalate (by decide) each
  unfold array
  split
  · exact fun k member => absurd member List.not_mem_nil
  · refine List.forall_mem_singleton.mpr ⟨typed.balanced.append brackets, named, ?_⟩
    exact (create.balanced.append brackets).append (balanced_braced listed)

private theorem tidy_labelled (typed : Balanced type) {rules : List (String × Option α)}
    (named : ∀ rule ∈ rules, Plain (name rule.1)) (each : ∀ a, Balanced (text a)) :
    ∀ k ∈ rules.flatMap fun (rule, value) =>
      (value.map fun v => (⟨type, name rule, text v⟩ : Constant)).toList, k.Tidy := by
  refine List.forall_mem_flatMap.mpr fun rule member => ?_
  exact forall_mem_toList_map (fun v => ⟨typed, named rule member, each v⟩) rule.2

variable (named : ∀ rule, Plain rule → Plain (name rule))
include named

theorem tidy_bounds (typed : Plain type) (each : ∀ a, Balanced (text a)) (b : Bounds α) :
    ∀ k ∈ bounds type name text b, k.Tidy := by
  refine tidy_labelled typed.balanced (fun rule member => named rule.1 ?_) each
  have labels : ∀ rule ∈ ["Const", "Lt", "Lte", "Gt", "Gte"], Plain rule := by decide
  exact labels rule.1 (List.mem_map_of_mem member)

theorem tidy_sets (typed : Plain type) (each : ∀ a, Balanced (text a)) (allowed denied : List α) :
    ∀ k ∈ sets type name text allowed denied, k.Tidy := by
  refine List.forall_mem_append.mpr ⟨?_, ?_⟩
  · exact tidy_array typed (named _ (by decide)) (List.forall_mem_map.mpr fun a _ => each a)
  · exact tidy_array typed (named _ (by decide)) (List.forall_mem_map.mpr fun a _ => each a)

omit named

private theorem tidy_pattern (named : Plain label) (p : Option String) :
    ∀ k ∈ pattern label p, k.Tidy := by
  have opening : Turns [] [')'] (patternType ++ ".compile(") := by decide
  have closing : Turns [')'] [] ")" := by decide
  refine forall_mem_toList_map (fun p => ⟨(by decide : Balanced patternType), named, ?_⟩) p
  exact (opening.extend (balanced_string p)).append closing

private theorem tidy_error (tidy : c.Tidy) {own : Option ErrorSpec}
    (written : own ∈ c.rules.errors) (alternative : Nat) :
    ∀ k ∈ error c alternative own, k.Tidy := by
  unfold error
  split
  · rename_i owns
    cases own with
    | none => exact fun k member => absurd member List.not_mem_nil
    | some spec =>
        have called := tidy.errors owns spec (List.mem_append_left _ written)
        refine List.forall_mem_singleton.mpr ⟨(by decide : Balanced errorType), ?_, ?_⟩
        · exact plain_errorName tidy alternative
        · exact balanced_errorCall tidy.owner called
  · exact fun k member => absurd member List.not_mem_nil

private theorem tidy_required (tidy : c.Tidy) {rules : Option MessageRules}
    (written : rules.bind MessageRules.error ∈
      c.rules.errors ++ [c.messageRules.bind MessageRules.error]) :
    ∀ k ∈ required c rules, k.Tidy := by
  unfold required
  split
  · split
    · rename_i owns
      have called := tidy.errors owns _ written
      refine List.forall_mem_singleton.mpr ⟨(by decide : Balanced errorType), ?_, ?_⟩
      · exact plain_requiredName tidy
      · exact balanced_errorCall tidy.owner called
    · exact fun k member => absurd member List.not_mem_nil
  · exact fun k member => absurd member List.not_mem_nil

end Constant

open Constant

variable {c : Context}

private theorem tidy_alternatives {α : Type} {rules : List α} {constants : α → Nat → List Constant}
    (each : ∀ r ∈ rules, ∀ i, ∀ k ∈ constants r i, k.Tidy) :
    ∀ k ∈ alternatives rules constants, k.Tidy := by
  refine List.forall_mem_flatMap.mpr fun ⟨r, i⟩ member => each r ?_ i
  exact List.fst_mem_of_mem_zipIdx member

private theorem tidy_partConstants {name : String → String}
    (named : ∀ rule, Plain rule → Plain (name rule)) (r : BytesRule) :
    ∀ k ∈ partConstants name r, k.Tidy := by
  refine tidy_labelled (by decide) (fun rule member => named rule.1 ?_) balanced_bytes
  have labels : ∀ rule ∈ ["Prefix", "Contains", "Suffix"], Plain rule := by decide
  exact labels rule.1 (List.mem_map_of_mem member)

private theorem balanced_byteString (bs : Bytes) : Balanced (byteString bs) := by
  have opening : Turns [] [')'] (byteStringType ++ ".copyFrom(") := by decide
  have closing : Turns [')'] [] ")" := by decide
  exact (opening.extend (balanced_bytes bs)).append closing

theorem balanced_enumMember {type : String} (typed : Plain type) (n : Word .int32) :
    Balanced (type ++ ".forNumber(" ++ n.text ++ ")") := by
  have opening : Turns [] [')'] ".forNumber(" := by decide
  have closing : Turns [')'] [] ")" := by decide
  exact ((opening.prepend typed.balanced).extend (plain_word n).balanced).append closing

private theorem tidy_valueConstants {files : List File} (names : ∀ file ∈ files, file.PlainNames)
    (tidy : c.Tidy) {v : ValueRules} (written : c.rules.errors = v.errors) :
    GivesAll Constant.Tidy (valueConstants (Schema.ofFiles files) c v) := by
  have named (i : Nat) : ∀ rule, Plain rule → Plain (constantName c rule i) :=
    fun rule plain => plain_constantName tidy plain i
  have failed {α : Type} {rules : List α} {error : α → Option ErrorSpec}
      (all : c.rules.errors = rules.map error) :
      ∀ r ∈ rules, ∀ i, ∀ k ∈ Constant.error c i (error r), k.Tidy := by
    intro r member i
    exact tidy_error tidy (all ▸ List.mem_map_of_mem member) i
  unfold valueConstants
  cases v with
  | any rules =>
      refine .ok (tidy_alternatives fun r member i => ?_)
      refine List.forall_mem_append.mpr ⟨?_, failed written r member i⟩
      exact tidy_sets (named i) (by decide) balanced_string _ _
  | bool r => exact .ok (tidy_error tidy (written ▸ List.mem_singleton_self _) 0)
  | bytes rules =>
      refine .ok (tidy_alternatives fun r member i => ?_)
      refine List.forall_mem_append.mpr ⟨?_, failed written r member i⟩
      refine List.forall_mem_append.mpr ⟨?_, tidy_partConstants (named i) r⟩
      refine List.forall_mem_append.mpr ⟨?_, tidy_pattern (named i _ (by decide)) _⟩
      refine List.forall_mem_append.mpr ⟨?_, ?_⟩
      · have typed : Balanced byteStringType := by decide
        refine forall_mem_toList_map (fun v => ⟨typed, named i _ (by decide), ?_⟩) _
        exact balanced_byteString v
      · exact tidy_sets (named i) (by decide) balanced_byteString _ _
  | duration rules =>
      refine .ok (tidy_alternatives fun r member i => ?_)
      refine List.forall_mem_append.mpr ⟨?_, failed written r member i⟩
      refine List.forall_mem_append.mpr ⟨?_, ?_⟩
      · exact tidy_bounds (named i) (by decide) balanced_duration _
      · exact tidy_sets (named i) (by decide) balanced_duration _ _
  | enum rules =>
      refine .bind fun type found => .ok (tidy_alternatives fun r member i => ?_)
      have typed := plain_enumClass names found
      refine List.forall_mem_append.mpr ⟨?_, failed written r member i⟩
      exact tidy_sets (named i) typed (balanced_enumMember typed) _ _
  | numeric k rules =>
      have typed : Plain (boxed k) := by cases k <;> decide
      refine .ok (tidy_alternatives fun r member i => ?_)
      refine List.forall_mem_append.mpr ⟨?_, failed written r member i⟩
      refine List.forall_mem_append.mpr ⟨?_, ?_⟩
      · exact tidy_bounds (named i) typed (balanced_number _) _
      · exact tidy_sets (named i) typed (balanced_number _) _ _
  | string rules =>
      refine .ok (tidy_alternatives fun r member i => ?_)
      refine List.forall_mem_append.mpr ⟨?_, failed written r member i⟩
      refine List.forall_mem_append.mpr ⟨?_, tidy_pattern (named i _ (by decide)) _⟩
      exact tidy_sets (named i) (by decide) balanced_string _ _
  | timestamp rules =>
      refine .ok (tidy_alternatives fun r member i => ?_)
      refine List.forall_mem_append.mpr ⟨?_, failed written r member i⟩
      refine List.forall_mem_append.mpr ⟨?_, ?_⟩
      · exact tidy_bounds (named i) (by decide) balanced_timestamp _
      · have typed : Balanced durationType := by decide
        refine forall_mem_toList_map (fun d => ⟨typed, named i _ (by decide), ?_⟩) _
        exact balanced_duration d

/-- The constants for a field leave no bracket open. -/
theorem constantsPass_yields {files : List File} (names : ∀ file ∈ files, file.PlainNames) :
    (constantsPass (Schema.ofFiles files)).Yields Constant.Tidy where
  message c rules tidy written := by
    refine .ok (tidy_required tidy ?_)
    rw [written]
    cases rules with
    | none => exact List.mem_append_right _ (List.mem_singleton_self _)
    | some rules => exact List.mem_append_left _ (List.mem_singleton_self _)
  value c v tidy written := tidy_valueConstants names tidy (by rw [written]; rfl)
  wrapper inner c tidy inside := by
    refine .bind fun parts within => .ok (List.forall_mem_append.mpr ⟨?_, ?_⟩)
    · exact tidy_required tidy (List.mem_append_right _ (List.mem_singleton_self _))
    · exact inside "" (by decide) parts within
  repeated elements c rules tidy written inside := by
    refine .bind fun items within => .ok (List.forall_mem_append.mpr ⟨?_, ?_⟩)
    · exact inside _ ⟨(by decide : Balanced ""), (by decide : Plain "")⟩ items within
    · refine tidy_alternatives fun r member i => tidy_error tidy ?_ i
      rw [written]
      exact List.mem_map_of_mem member
  map keys elements c rules tidy written keysInside valuesInside := by
    refine .bind fun key first => .bind fun value second => .ok ?_
    refine List.forall_mem_append.mpr ⟨List.forall_mem_append.mpr ⟨?_, ?_⟩, ?_⟩
    · exact keysInside _ ⟨(by decide : Balanced "key"), (by decide : Plain "Key")⟩ key first
    · exact valuesInside _ ⟨(by decide : Balanced "value"), (by decide : Plain "Value")⟩ value
        second
    · refine tidy_alternatives fun r member i => tidy_error tidy ?_ i
      rw [written]
      exact List.mem_map_of_mem member

end ProtoRules.Java
