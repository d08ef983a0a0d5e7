import Mathlib.Algebra.GroupWithZero.Nat
import ProtoRules.Emit.RustMethod
import ProtoRules.Proofs.ContextChains

/-!
Early returns. What is written for the rules of a scalar returns once for every rule that its
alternatives declare, and nothing is written if they declare none. Any other return stands in a path
that is written with them: that of the function that makes an error, or that of an enum.
-/

namespace ProtoRules

def NumericRule.tested {α : Type} (r : NumericRule α) : List String :=
  r.bounds.declared ++ named "in" (!r.allowed.isEmpty) ++ named "not_in" (!r.denied.isEmpty)

def StringFormat.isPattern : StringFormat → Bool
  | pattern _ => true
  | _ => false

/-- A pattern is tested once, be it given by itself or by name. -/
def StringRule.tested (r : StringRule) : List String :=
  named "const" r.const.isSome ++ named "len" r.len.isSome ++ named "min_len" r.minLen.isSome ++
    named "max_len" r.maxLen.isSome ++ named "len_bytes" r.lenBytes.isSome ++
    named "min_bytes" r.minBytes.isSome ++ named "max_bytes" r.maxBytes.isSome ++
    named "pattern" r.effectivePattern?.isSome ++ named "prefix" r.startsWith.isSome ++
    named "suffix" r.endsWith.isSome ++ named "contains" r.contains.isSome ++
    named "not_contains" r.lacks.isSome ++ named "in" (!r.allowed.isEmpty) ++
    named "not_in" (!r.denied.isEmpty) ++ named "well_known" (r.format.any (!·.isPattern))

/-- Every value contains the empty part, so that is not tested. -/
def BytesRule.tested (r : BytesRule) : List String :=
  named "const" r.const.isSome ++ named "len" r.len.isSome ++ named "min_len" r.minLen.isSome ++
    named "max_len" r.maxLen.isSome ++ named "pattern" r.pattern.isSome ++
    named "prefix" r.startsWith.isSome ++ named "suffix" r.endsWith.isSome ++
    named "contains" (r.contains.any (!·.isEmpty)) ++ named "in" (!r.allowed.isEmpty) ++
    named "not_in" (!r.denied.isEmpty) ++ named "well_known" r.format.isSome

def EnumRule.tested (r : EnumRule) : List String :=
  named "const" r.const.isSome ++ named "defined_only" r.definedOnly ++
    named "in" (!r.allowed.isEmpty) ++ named "not_in" (!r.denied.isEmpty)

/-- What an alternative is tested for, the error that it raises, and whether a test names the type
of the value. -/
structure Tested where
  rules : List String
  error : Option ErrorSpec
  namesType : Bool := false

/-- The alternatives of rules that apply to a value which is always there. -/
def ValueRules.tested? : ValueRules → Option (List Tested)
  | .numeric _ rules => some (rules.map fun r => ⟨r.tested, r.error, false⟩)
  | .string rules => some (rules.map fun r => ⟨r.tested, r.error, false⟩)
  | .bytes rules => some (rules.map fun r => ⟨r.tested, r.error, false⟩)
  | .enum rules => some (rules.map fun r => ⟨r.tested, r.error, r.definedOnly⟩)
  | .bool r => some [⟨named "const" r.const.isSome, r.error, false⟩]
  | .any _ | .duration _ | .timestamp _ => none

namespace Rust

mutual

def Token.countReturns : Token → Nat
  | .word text => if text = "return" then 1 else 0
  | .op _ => 0
  | .literal _ => 0
  | .group _ body => countReturns body

/-- How often tokens return, at any depth. -/
def countReturns : Tokens → Nat
  | [] => 0
  | t :: ts => t.countReturns + countReturns ts

end

@[simp] theorem countReturns_nil : countReturns [] = 0 := rfl

@[simp] theorem countReturns_cons (t : Token) (ts : Tokens) :
    countReturns (t :: ts) = t.countReturns + countReturns ts := rfl

@[simp] theorem countReturns_word (text : String) :
    (Token.word text).countReturns = if text = "return" then 1 else 0 := rfl

@[simp] theorem countReturns_op (text : String) : (Token.op text).countReturns = 0 := rfl

@[simp] theorem countReturns_literal (text : String) : (Token.literal text).countReturns = 0 := rfl

@[simp] theorem countReturns_group (bracket : Bracket) (body : Tokens) :
    (Token.group bracket body).countReturns = countReturns body := rfl

@[simp] theorem countReturns_append (first rest : Tokens) :
    countReturns (first ++ rest) = countReturns first + countReturns rest := by
  induction first with
  | nil => exact (Nat.zero_add _).symm
  | cons t ts ih => rw [List.cons_append, countReturns_cons, countReturns_cons, ih, Nat.add_assoc]

@[simp] theorem countReturns_signed (negative : Bool) (magnitude : String) :
    countReturns (signed negative magnitude) = 0 := by
  cases negative <;> rfl

private theorem suffix_ne_return (f : FloatFormat) : suffix (.binary f) ≠ "return" := by
  rw [suffix]
  split <;> decide

@[simp] theorem countReturns_number (f : NumberFormat) (x : Number f) :
    countReturns (number f x) = 0 := by
  cases f with
  | word f => exact countReturns_signed _ _
  | binary f =>
      have plain := suffix_ne_return f
      cases x with
      | nan => simp [number, binary, rooted, plain]
      | infinite negative => cases negative <;> simp [number, binary, rooted, plain]
      | finite negative m e => exact countReturns_signed _ _

@[simp] theorem countReturns_bool (b : Bool) : countReturns (bool b) = 0 := by
  cases b <;> rfl

@[simp] theorem countReturns_string (s : String) : countReturns (string s) = 0 := rfl

@[simp] theorem countReturns_bytes (bs : Bytes) : countReturns (bytes bs) = 0 := rfl

private theorem countReturns_commas {items : List Tokens}
    (plain : ∀ i ∈ items, countReturns i = 0) :
    countReturns (commas items) = 0 := by
  induction items with
  | nil => rfl
  | cons i items ih =>
      obtain ⟨first, rest⟩ := List.forall_mem_cons.mp plain
      cases items with
      | nil => simpa [commas, List.intercalate] using first
      | cons j items =>
          have step : commas (i :: j :: items) = i ++ (.op "," :: commas (j :: items)) := by
            simp [commas, List.intercalate]
          rw [step, countReturns_append, first, countReturns_cons, ih rest]
          rfl

/-- Violations of some rules, one for each. None of them returns. -/
structure Tests (rules : List String) (violations : List Violation) : Prop where
  length : violations.length = rules.length
  plain : ∀ violation ∈ violations, countReturns violation = 0

namespace Tests

variable {rules more : List String} {violations others : List Violation}

theorem append (first : Tests rules violations) (rest : Tests more others) :
    Tests (rules ++ more) (violations ++ others) := by
  refine ⟨?_, List.forall_mem_append.mpr ⟨first.plain, rest.plain⟩⟩
  rw [List.length_append, List.length_append, first.length, rest.length]

private theorem sum_eq_zero (tests : Tests rules violations) :
    (violations.map countReturns).sum = 0 := by
  rw [List.map_congr_left tests.plain, List.map_const', List.sum_replicate_nat, Nat.mul_zero]

/-- A rule that is declared unless a list is empty. -/
private theorem oneUnless {violation : Violation} (name : String)
    (plain : countReturns violation = 0)
    (absent : Bool) : Tests (named name (!absent)) (if absent then [] else [violation]) := by
  cases absent with
  | true => exact ⟨rfl, nofun⟩
  | false => exact ⟨rfl, List.forall_mem_singleton.mpr plain⟩

theorem option {α : Type} {violation : α → Violation} (name : String)
    (plain : ∀ a, countReturns (violation a) = 0) (declared : Option α) :
    Tests (named name declared.isSome) (declared.map violation).toList := by
  cases declared with
  | some a => exact ⟨rfl, List.forall_mem_singleton.mpr (plain a)⟩
  | none => exact ⟨rfl, nofun⟩

variable {α : Type} {literal : α → Tokens} {subject : Tokens}

theorem const (plain : ∀ a, countReturns (literal a) = 0) (bare : countReturns subject = 0)
    (declared : Option α) :
    Tests (named "const" declared.isSome) (constViolation literal subject declared) :=
  .option "const" (fun a => by simp [compare, plain, bare]) declared

theorem bounds (plain : ∀ a, countReturns (literal a) = 0) (bare : countReturns subject = 0)
    (b : Bounds α) : Tests b.declared
      (constViolation literal subject b.const ++ boundViolations literal subject b) := by
  have each (name op : String) (bound : Option α) : Tests (named name bound.isSome)
      (bound.map fun a => fails subject op (literal a)).toList :=
    .option name (fun a => by simp [fails, not, parens, compare, plain, bare]) bound
  have all := (const plain bare b.const).append ((each "lt" "<" b.lt).append
    ((each "lte" "<=" b.lte).append ((each "gt" ">" b.gt).append (each "gte" ">=" b.gte))))
  simpa [Bounds.declared, boundViolations] using all

theorem sets (plain : ∀ a, countReturns (literal a) = 0) (bare : countReturns subject = 0)
    (allowed denied : List α) :
    Tests (named "in" (!allowed.isEmpty) ++ named "not_in" (!denied.isEmpty))
      (setViolations literal subject allowed denied) := by
  have member (listed : List α) : countReturns (isMember (listed.map literal) subject) = 0 := by
    have items : ∀ i ∈ listed.map literal, countReturns i = 0 :=
      List.forall_mem_map.mpr fun a _ => plain a
    simp [isMember, squares, method, parens, countReturns_commas items, bare]
  exact (oneUnless "in" (by simp [not, member]) _).append (oneUnless "not_in" (member denied) _)

theorem lengths {count : Tokens} (bare : countReturns count = 0) (first second third : String)
    (exact min max : Option Length) :
    Tests (named first exact.isSome ++ named second min.isSome ++ named third max.isSome)
      (lengthViolations count exact min max) := by
  have each (name op : String) (bound : Option Length) : Tests (named name bound.isSome)
      (bound.map fun n => compare count op (Rust.length n)).toList :=
    .option name (fun n => by simp [compare, Rust.length, bare]) bound
  have all := ((each first "!=" exact).append (each second "<" min)).append (each third ">" max)
  simpa [lengthViolations] using all

theorem affix (negated : Bool) {call : String} (other : call ≠ "return") (name : String)
    (plain : ∀ a, countReturns (literal a) = 0) (declared : Option α) :
    Tests (named name declared.isSome) (affixViolation negated call literal declared) := by
  refine .option name (fun a => ?_) declared
  cases negated <;> simp [not, value, method, parens, plain, other]

end Tests

private theorem countReturns_mismatch {regex subject : Tokens} (pattern : String)
    (bare : countReturns regex = 0) (plain : countReturns subject = 0) :
    countReturns (mismatch regex pattern subject) = 0 := by
  simp [mismatch, rooted, method, parens, braces, not, bare, plain]

private theorem numericViolations_tests (f : NumberFormat) (r : NumericRule (Number f)) :
    Tests r.tested (numericViolations f r) := by
  have bounds := Tests.bounds (countReturns_number f) (rfl : countReturns target = 0) r.bounds
  have sets := Tests.sets (countReturns_number f) (rfl : countReturns value = 0) r.allowed r.denied
  simpa [NumericRule.tested, numericViolations] using bounds.append sets

private theorem stringFormatViolation?_tests (format : Option StringFormat) :
    Tests (named "well_known" (format.any (!·.isPattern)))
      (format.bind stringFormatViolation?).toList := by
  cases format with
  | none => exact ⟨rfl, nofun⟩
  | some format =>
      cases format with
      | pattern p => exact ⟨rfl, nofun⟩
      | _ => exact ⟨rfl, List.forall_mem_singleton.mpr rfl⟩

private theorem stringViolations_tests (r : StringRule) : Tests r.tested (stringViolations r) := by
  have affix (negated : Bool) {call : String} (other : call ≠ "return") (name : String)
      (declared : Option String) : Tests (named name declared.isSome)
        (affixViolation negated call string declared) :=
    .affix negated other name countReturns_string declared
  have const := Tests.const countReturns_string (rfl : countReturns asStr = 0) r.const
  have chars := Tests.lengths (rfl : countReturns charCount = 0) "len" "min_len" "max_len"
    r.len r.minLen r.maxLen
  have bytes := Tests.lengths (rfl : countReturns size = 0) "len_bytes" "min_bytes" "max_bytes"
    r.lenBytes r.minBytes r.maxBytes
  have pattern : Tests (named "pattern" r.effectivePattern?.isSome)
      (r.effectivePattern?.map fun p => mismatch textRegex p value).toList :=
    .option "pattern" (fun p => countReturns_mismatch p rfl rfl) _
  have startsWith := affix true (by decide : "starts_with" ≠ "return") "prefix" r.startsWith
  have endsWith := affix true (by decide : "ends_with" ≠ "return") "suffix" r.endsWith
  have contains := affix true (by decide : "contains" ≠ "return") "contains" r.contains
  have lacks := affix false (by decide : "contains" ≠ "return") "not_contains" r.lacks
  have sets := Tests.sets countReturns_string (rfl : countReturns (.op "&" :: asStr) = 0)
    r.allowed r.denied
  have all := const.append <| chars.append <| bytes.append <| pattern.append <|
    startsWith.append <| endsWith.append <| contains.append <| lacks.append <|
    sets.append (stringFormatViolation?_tests r.format)
  simpa [StringRule.tested, stringViolations] using all

private theorem partViolation_tests (part : Option Bytes) :
    Tests (named "contains" (part.any (!·.isEmpty))) ((part.map partViolation).getD []) := by
  cases part with
  | none => exact ⟨rfl, nofun⟩
  | some part => exact .oneUnless "contains" rfl part.isEmpty

private theorem bytesViolations_tests (r : BytesRule) : Tests r.tested (bytesViolations r) := by
  have const := Tests.const countReturns_bytes (rfl : countReturns asSlice = 0) r.const
  have lengths := Tests.lengths (rfl : countReturns size = 0) "len" "min_len" "max_len"
    r.len r.minLen r.maxLen
  have pattern : Tests (named "pattern" r.pattern.isSome)
      (r.pattern.map fun p => mismatch bytesRegex p asSlice).toList :=
    .option "pattern" (fun p => countReturns_mismatch p rfl rfl) _
  have startsWith := Tests.affix true (by decide : "starts_with" ≠ "return") "prefix"
    countReturns_bytes r.startsWith
  have endsWith := Tests.affix true (by decide : "ends_with" ≠ "return") "suffix"
    countReturns_bytes r.endsWith
  have sets := Tests.sets countReturns_bytes (rfl : countReturns (.op "&" :: asSlice) = 0)
    r.allowed r.denied
  have format : Tests (named "well_known" r.format.isSome)
      (r.format.map bytesFormatViolation).toList :=
    .option "well_known" (fun format => by cases format <;> rfl) _
  have all := const.append <| lengths.append <| pattern.append <| startsWith.append <|
    endsWith.append <| (partViolation_tests r.contains).append <| sets.append format
  simpa [BytesRule.tested, bytesViolations] using all

/-- There is a violation for each rule of an enum as well, but that of an undefined value is put in
terms of the type. -/
private theorem enumViolations_counts (type : Tokens) (r : EnumRule) :
    (enumViolations type r).length = r.tested.length ∧
      ((enumViolations type r).map countReturns).sum =
        if r.definedOnly then countReturns type else 0 := by
  have const := Tests.const (countReturns_number (.word .int32)) (rfl : countReturns target = 0)
    r.const
  have sets := Tests.sets (countReturns_number (.word .int32)) (rfl : countReturns value = 0)
    r.allowed r.denied
  have undefined : countReturns (undefinedNumber type) = countReturns type := by
    simp [undefinedNumber, rooted, method, parens, target]
  obtain ⟨number, inside⟩ : (if r.definedOnly then [undefinedNumber type] else []).length =
        (named "defined_only" r.definedOnly).length ∧
      ((if r.definedOnly then [undefinedNumber type] else []).map countReturns).sum =
        if r.definedOnly then countReturns type else 0 := by
    cases r.definedOnly with
    | true => exact ⟨rfl, by simp [undefined]⟩
    | false => exact ⟨rfl, rfl⟩
  have lengths := (const.append sets).length
  have sums := (const.append sets).sum_eq_zero
  simp only [enumViolations, EnumRule.tested, List.length_append, List.map_append,
    List.sum_append] at lengths sums ⊢
  omega

variable {schema : Schema} {package : String} {c : Context} {ts : Tokens}

/-- The returns in the path of the function that makes the error of an alternative. -/
def constructorReturns (c : Context) (own : Option ErrorSpec) : Nat :=
  ((c.error own).bind fun spec => path? (errorPath c.errorBase spec)).elim 0 countReturns

/-- The returns in the path of the enum that a value is of. -/
def typeReturns (schema : Schema) (package : String) (c : Context) : Nat :=
  ((c.shape.single?.bind ElementType.enumName?).bind fun name =>
    (typePath schema package name).toOption).elim 0 countReturns

/-- The returns in the paths that are written for an alternative: that of its error for each rule,
and that of the type if it is named. -/
def pathReturns (schema : Schema) (package : String) (c : Context) (t : Tested) : Nat :=
  t.rules.length * constructorReturns c t.error +
    if t.namesType then typeReturns schema package c else 0

theorem path_eq_ok_iff {text : String} : path text = .ok ts ↔ path? text = some ts := by
  rw [path]
  split <;> simp [*]

private theorem countReturns_raise {base : Option ErrorBase} {spec : ErrorSpec}
    (written : raise base spec = .ok ts) :
    countReturns ts = 1 + (path? (errorPath base spec)).elim 0 countReturns := by
  simp only [raise, bind_eq_ok_iff, pure_eq_ok_iff, path_eq_ok_iff] at written
  obtain ⟨constructor, found, rfl⟩ := written
  have arguments : countReturns (commas ((spec.code.map (number (.word .int32))).toList ++
      (spec.message.map string).toList)) = 0 := by
    refine countReturns_commas (List.forall_mem_append.mpr ⟨?_, ?_⟩)
    · cases spec.code <;> simp
    · cases spec.message <;> simp
  rw [found]
  simp [rooted, parens, arguments]

private theorem countReturns_fail {own : Option ErrorSpec} (written : fail c own = .ok ts) :
    countReturns ts = 1 + constructorReturns c own := by
  rw [fail] at written
  rw [constructorReturns]
  split at written
  · cases written
  · rename_i spec raised
    rw [raised]
    exact countReturns_raise written

private theorem countReturns_checks (violations : List Violation) (error : Tokens) :
    countReturns (violations.flatMap fun violation => [.word "if"] ++ violation ++ [braces error]) =
      (violations.map countReturns).sum + violations.length * countReturns error := by
  induction violations with
  | nil => simp
  | cons violation rest ih =>
      have first : countReturns ([.word "if"] ++ violation ++ [braces error]) =
          countReturns violation + countReturns error := by
        simp [braces]
      rw [List.flatMap_cons, countReturns_append, ih, first, List.map_cons, List.sum_cons,
        List.length_cons, Nat.add_mul]
      omega

private theorem identifier_eq_ok {name : String} {t : Token} (written : identifier name = .ok t) :
    t = .word name := by
  rcases ite_eq_iff.mp written with ⟨_, same⟩ | ⟨_, failed⟩
  · exact (Except.ok.inj same).symm
  · cases failed

private theorem escape_ne_return (name : String) : escape name ≠ "return" := by
  have raw (rest : String) : "r#" ++ rest ≠ "return" := by
    intro same
    have starts := congrArg String.toList same
    simp at starts
  rw [escape]
  split
  · rename_i special
    simp only [List.contains_iff_mem, List.mem_cons, List.not_mem_nil, or_false] at special
    rcases special with rfl | rfl | rfl | rfl <;> decide
  · split
    · exact raw name
    · rintro rfl
      exact absurd (by decide) ‹¬ keywords.contains "return" = true›

/-- How a value is referred to does not return, unless it goes by that very word. -/
private theorem countReturns_place (other : c.accessor ≠ some "return")
    (written : place c (fun name => [name])
      (fun field => [.op "&", .word "self", .op ".", field]) = .ok ts) :
    countReturns ts = 0 := by
  rw [place] at written
  split at written
  · rename_i accessor named
    simp only [bind_eq_ok_iff, pure_eq_ok_iff] at written
    obtain ⟨name, valid, rfl⟩ := written
    have different : accessor ≠ "return" := by
      rintro rfl
      exact other named
    simp [identifier_eq_ok valid, different]
  · simp only [bind_eq_ok_iff, pure_eq_ok_iff] at written
    obtain ⟨field, valid, rfl⟩ := written
    simp [identifier_eq_ok valid, escape_ne_return]

/-- Tokens that return early for so many rules, and as often inside of paths as is said. Without any
rules nothing is written. -/
structure Returning (rules inside : Nat) (ts : Tokens) : Prop where
  empty : ts = [] ↔ rules = 0
  count : countReturns ts = rules + inside

namespace Returning

variable {rules inside : Nat}

theorem nil : Returning 0 0 [] :=
  ⟨by simp, rfl⟩

theorem append {more further : Nat} {us : Tokens} (first : Returning rules inside ts)
    (rest : Returning more further us) :
    Returning (rules + more) (inside + further) (ts ++ us) := by
  refine ⟨?_, ?_⟩
  · rw [List.append_eq_nil_iff, first.empty, rest.empty, Nat.add_eq_zero_iff]
  · rw [countReturns_append, first.count, rest.count]
    omega

theorem concatM {α : Type} {write : α → Rendered Tokens} {count further : α → Nat} {as : List α}
    (each : ∀ a ∈ as, ∀ ts, write a = .ok ts → Returning (count a) (further a) ts)
    (written : ProtoRules.concatM write as = .ok ts) :
    Returning (as.map count).sum (as.map further).sum ts := by
  induction as generalizing ts with
  | nil =>
      cases written
      exact nil
  | cons a as ih =>
      obtain ⟨first, rest⟩ := List.forall_mem_cons.mp each
      simp only [ProtoRules.concatM, bind_eq_ok_iff, pure_eq_ok_iff] at written
      obtain ⟨us, here, vs, later, rfl⟩ := written
      exact (first us here).append (ih rest later)

theorem returns {own : Option ErrorSpec} {violations : List Violation}
    (written : Rust.returns c own violations = .ok ts) : Returning violations.length
      ((violations.map countReturns).sum + violations.length * constructorReturns c own) ts := by
  cases violations with
  | nil =>
      cases written
      exact ⟨by simp, by simp⟩
  | cons violation rest =>
      simp only [Rust.returns, List.isEmpty_cons, Bool.false_eq_true, if_false, bind_eq_ok_iff,
        pure_eq_ok_iff] at written
      obtain ⟨error, failed, rfl⟩ := written
      refine ⟨by simp, ?_⟩
      rw [countReturns_checks, countReturns_fail failed, Nat.mul_add]
      omega

theorem guarded (returning : Returning rules inside ts) {condition : Tokens}
    (plain : countReturns condition = 0) (flag : Bool) :
    Returning rules inside (Rust.guarded (onlyIf flag condition) ts) := by
  cases flag with
  | false => exact returning
  | true =>
      cases ts with
      | nil => exact returning
      | cons t ts =>
          refine ⟨?_, ?_⟩
          · rw [← returning.empty]
            simp [Rust.guarded, onlyIf]
          · rw [← returning.count]
            simp [Rust.guarded, onlyIf, braces, plain]

theorem bind (returning : Returning rules inside ts) (other : c.accessor ≠ some "return")
    {us : Tokens} (written : Rust.bind c ts = .ok us) : Returning rules inside us := by
  cases ts with
  | nil =>
      cases written
      exact returning
  | cons t ts =>
      simp only [Rust.bind, List.isEmpty_cons, Bool.false_eq_true, if_false, bind_eq_ok_iff,
        pure_eq_ok_iff] at written
      obtain ⟨subject, placed, rfl⟩ := written
      have plain := countReturns_place other placed
      refine ⟨?_, ?_⟩
      · rw [← returning.empty]
        simp
      · rw [← returning.count]
        simp [braces, plain]

/-- What is written for alternatives whose violations are known, each under a condition of its own
if it has one. -/
theorem alternatives {α : Type} {rules : List α} {tested : α → Tested}
    {violations : α → List Violation} {flag : α → Bool} {condition : Tokens}
    (tests : ∀ r, Tests (tested r).rules (violations r)) (names : ∀ r, (tested r).namesType = false)
    (plain : countReturns condition = 0) (other : c.accessor ≠ some "return")
    (written : (ProtoRules.concatM (fun r => do
      return Rust.guarded (onlyIf (flag r) condition)
        (← Rust.returns c (tested r).error (violations r))) rules >>= Rust.bind c) = .ok ts) :
    Returning ((rules.map tested).map (·.rules.length)).sum
      ((rules.map tested).map (pathReturns schema package c)).sum ts := by
  simp only [bind_eq_ok_iff] at written
  obtain ⟨checks, each, bound⟩ := written
  rw [List.map_map, List.map_map]
  refine (concatM (fun r _ ts alternative => ?_) each).bind other bound
  simp only [bind_eq_ok_iff, pure_eq_ok_iff] at alternative
  obtain ⟨checks, returned, rfl⟩ := alternative
  have returning := (returns returned).guarded plain (flag r)
  rw [(tests r).length, (tests r).sum_eq_zero] at returning
  simpa [pathReturns, names r] using returning

end Returning

private theorem valueTokens_returning {v : ValueRules} {alternatives : List Tested}
    (tested : v.tested? = some alternatives) (other : c.accessor ≠ some "return")
    (written : valueTokens schema package c v = .ok ts) :
    Returning (alternatives.map (·.rules.length)).sum
      (alternatives.map (pathReturns schema package c)).sum ts := by
  cases v with
  | numeric k rules =>
      cases tested
      have tests := numericViolations_tests k.format
      exact .alternatives tests (fun _ => rfl) rfl other written
  | string rules =>
      cases tested
      exact .alternatives stringViolations_tests (fun _ => rfl) rfl other written
  | bytes rules =>
      cases tested
      exact .alternatives bytesViolations_tests (fun _ => rfl) rfl other written
  | enum rules =>
      cases tested
      simp only [valueTokens] at written
      split at written
      · cases written
      · rename_i name enum
        simp only [bind_eq_ok_iff] at written
        obtain ⟨_, _, type, typed, checks, each, bound⟩ := written
        have named : typeReturns schema package c = countReturns type := by
          rw [typeReturns, enum, Option.bind_some, typed]
          rfl
        rw [List.map_map, List.map_map]
        refine (Returning.concatM (fun r _ ts returned => ?_) each).bind other bound
        obtain ⟨length, sum⟩ := enumViolations_counts type r
        have returning := Returning.returns returned
        rw [length, sum, Nat.add_comm] at returning
        simpa [pathReturns, named] using returning
  | bool r =>
      cases tested
      simp only [valueTokens, bind_eq_ok_iff] at written
      obtain ⟨checks, returned, bound⟩ := written
      have const := Tests.const countReturns_bool (rfl : countReturns target = 0) r.const
      have returning := (Returning.returns returned).bind other bound
      rw [const.length, const.sum_eq_zero] at returning
      simpa [pathReturns] using returning
  | any _ => cases tested
  | duration _ => cases tested
  | timestamp _ => cases tested

/-- The contexts for which checks are written: those of fields, where a member of a oneof goes by a
name of its own, and those of the positions that they lead to. -/
inductive Visited (message : Message) : Context → Prop
  | field {field : Field} {c : Context} (projected : Context.ofField message field = .ok c) :
      Visited message c
  | member {field : Field} {c : Context} (projected : Context.ofField message field = .ok c) :
      Visited message { c with accessor := some "v" }
  | item {c d : Context} {index : Option Nat} (around : Visited message c)
      (led : c.element ⟨"item", "", index⟩ = .ok d) : Visited message d
  | key {c d : Context} {index : Option Nat} (around : Visited message c)
      (led : c.key ⟨"key", "Key", index⟩ = .ok d) : Visited message d
  | value {c d : Context} {index : Option Nat} (around : Visited message c)
      (led : c.element ⟨"value", "Value", index⟩ = .ok d) : Visited message d
  | inner {c d : Context} (around : Visited message c)
      (led : c.unwrap (c.accessor.getD "inner") = .ok d) : Visited message d

private theorem accessor_of_child {c d : Context} {step : Context.Step} {element : ElementType}
    {declared : Option FieldRules} {lent : Option ErrorSpec}
    (led : c.child step element declared lent = .ok d) : d.accessor = some step.accessor := by
  simp only [Context.child, bind_eq_ok_iff, pure_eq_ok_iff] at led
  obtain ⟨_, _, rfl⟩ := led
  rfl

theorem accessor_of_key {c d : Context} {step : Context.Step} (led : c.key step = .ok d) :
    d.accessor = some step.accessor := by
  simp only [Context.key] at led
  split at led
  · exact accessor_of_child led
  · cases led

theorem accessor_of_element {c d : Context} {step : Context.Step}
    (led : c.element step = .ok d) : d.accessor = some step.accessor := by
  simp only [Context.element] at led
  split at led
  · exact accessor_of_child led
  · exact accessor_of_child led
  · cases led

/-- No position goes by a name that returns. -/
private theorem Visited.accessor_ne {message : Message} (visited : Visited message c) :
    c.accessor ≠ some "return" := by
  induction visited with
  | field projected =>
      simp only [Context.ofField, bind_eq_ok_iff, pure_eq_ok_iff] at projected
      obtain ⟨_, _, _, _, _, _, rfl⟩ := projected
      exact nofun
  | member _ => simp
  | item _ led _ => simp [accessor_of_element led]
  | key _ led _ => simp [accessor_of_key led]
  | value _ led _ => simp [accessor_of_element led]
  | @inner c d _ led ih =>
      simp only [Context.unwrap] at led
      split at led
      · cases led
        cases named : c.accessor with
        | none => simp
        | some accessor => simpa [named] using ih
      · cases led

/-- The checks for the rules of a scalar return early once for each rule that is declared, whichever
alternative declares it, and nothing is written if none is. All other returns stand in the paths
that are written with them; if there are none in these, the returns are as many as the rules. -/
theorem scalar_rules_return_once_each {message : Message} {v : ValueRules}
    {alternatives : List Tested} (visited : Visited message c)
    (typed : c.rules = .typed (.value v)) (tested : v.tested? = some alternatives)
    (rendered : (checksPass schema package).render c = .ok ts) :
    (ts = [] ↔ (alternatives.map (·.rules.length)).sum = 0) ∧
    countReturns ts = (alternatives.map (·.rules.length)).sum +
      (alternatives.map (pathReturns schema package c)).sum ∧
    ((∀ t ∈ alternatives, pathReturns schema package c t = 0) →
      countReturns ts = (alternatives.map (·.rules.length)).sum) := by
  have written : valueTokens schema package c v = .ok ts := by
    simp only [Pass.render, Pass.single, typed] at rendered
    exact rendered
  obtain ⟨empty, count⟩ := valueTokens_returning tested visited.accessor_ne written
  refine ⟨empty, count, fun plain => ?_⟩
  rw [count, List.sum_eq_zero_iff_forall_eq_nat.mpr (List.forall_mem_map.mpr plain), Nat.add_zero]

/-- A step that is positive and no more than ten, else an error is made by the named function. -/
def step (constructor : String) : Field where
  name := "step"
  shape := .single (.scalar (.numeric .int32))
  extensions := Extensions.insert {} rulesKey (.obj [("int32", .obj [("rules", .arr [
    .obj [("gt", .int 0), ("lte", .int 10), ("error", .obj [("method", .str constructor)])]])])])

def walk : Message where
  name := "Walk"

theorem step_returns_for_both_rules :
    ∃ c v alternatives ts, Visited walk c ∧ c.rules = .typed (.value v) ∧
      v.tested? = some alternatives ∧ (checksPass (Schema.ofFiles []) "").render c = .ok ts ∧
      (∀ t ∈ alternatives, pathReturns (Schema.ofFiles []) "" c t = 0) ∧ countReturns ts = 2 := by
  obtain ⟨c, projected⟩ : ∃ c, Context.ofField walk (step "bad_step") = .ok c := ⟨_, rfl⟩
  obtain ⟨v, alternatives, typed, tested, rules, plain⟩ : ∃ v alternatives,
      c.rules = .typed (.value v) ∧ v.tested? = some alternatives ∧
      (alternatives.map (·.rules.length)).sum = 2 ∧
      ∀ t ∈ alternatives, pathReturns (Schema.ofFiles []) "" c t = 0 := by
    cases projected
    exact ⟨_, _, rfl, rfl, rfl, by decide +kernel⟩
  have written : ((checksPass (Schema.ofFiles []) "").render c).toOption.isSome = true := by
    cases projected
    decide +kernel
  obtain ⟨ts, read⟩ := Option.isSome_iff_exists.mp written
  have rendered := toOption_eq_some_iff.mp read
  have visited : Visited walk c := .field projected
  obtain ⟨_, _, count⟩ := scalar_rules_return_once_each visited typed tested rendered
  exact ⟨c, v, alternatives, ts, visited, typed, tested, rendered, plain, (count plain).trans rules⟩

/-- The function that makes an error may be named by a path that holds a block, which is written out
with each of the two rules. -/
theorem step_returns_inside_path :
    ∃ c v alternatives ts, Visited walk c ∧ c.rules = .typed (.value v) ∧
      v.tested? = some alternatives ∧ (checksPass (Schema.ofFiles []) "").render c = .ok ts ∧
      (alternatives.map (·.rules.length)).sum = 2 ∧ countReturns ts = 4 := by
  obtain ⟨c, projected⟩ : ∃ c, Context.ofField walk
      (step ("bad::<" ++ braced " return; " ++ ">::step")) = .ok c := ⟨_, rfl⟩
  obtain ⟨v, alternatives, typed, tested, rules⟩ : ∃ v alternatives,
      c.rules = .typed (.value v) ∧ v.tested? = some alternatives ∧
      (alternatives.map (·.rules.length)).sum = 2 := by
    cases projected
    exact ⟨_, _, rfl, rfl, rfl⟩
  have counted : ((checksPass (Schema.ofFiles []) "").render c).toOption.map countReturns =
      some 4 := by
    cases projected
    decide +kernel
  obtain ⟨ts, written, count⟩ := Option.map_eq_some_iff.mp counted
  exact ⟨c, v, alternatives, ts, .field projected, typed, tested, toOption_eq_some_iff.mp written,
    rules, count⟩

end Rust

end ProtoRules
