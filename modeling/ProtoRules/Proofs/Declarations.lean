import ProtoRules.Proofs.Declarable

/-!
Rows of declarations. All of them succeed exactly if the names are different, no excluded pair is
among them, and what has to stand alone does. One that is refused leaves the names declared so far
as they are, so that a row goes on as if it were not there.
-/

namespace ProtoRules.Exclusions

variable {t : Exclusions} {seen names rules rest : List String} {rule other : String} {e : Conflict}

/-- Two rules that must not meet, whichever of them is declared first. -/
def Clashes (t : Exclusions) (a b : String) : Prop :=
  a ∈ t.alone ∨ b ∈ t.alone ∨ (a, b) ∈ t.pairs ∨ (b, a) ∈ t.pairs

structure ConflictFree (t : Exclusions) (names : List String) : Prop where
  nodup : names.Nodup
  pairs : ∀ a ∈ names, ∀ b ∈ names, a ≠ b → (a, b) ∉ t.pairs
  alone : ∀ a ∈ names, a ∈ t.alone → names = [a]

private theorem eq_singleton_iff_of_nodup (nodup : names.Nodup) (member : rule ∈ names) :
    names = [rule] ↔ ∀ a ∈ names, a = rule := by
  constructor
  · rintro rfl a inside
    exact List.mem_singleton.mp inside
  · intro same
    cases names with
    | nil => cases member
    | cons a others =>
        obtain rfl := same a List.mem_cons_self
        cases others with
        | nil => rfl
        | cons b others =>
            obtain rfl := same b (List.mem_cons_of_mem _ List.mem_cons_self)
            exact absurd List.mem_cons_self (List.nodup_cons.mp nodup).1

private theorem admits_iff_conflictFree : t.Admits names ↔ t.ConflictFree names := by
  rw [admits_iff_apart]
  constructor
  · intro ⟨nodup, alone, pairs⟩
    refine ⟨nodup, fun a aMember b bMember ne pair => ne (pairs a aMember b bMember pair), ?_⟩
    intro a member single
    exact (eq_singleton_iff_of_nodup nodup member).mpr (alone a member single)
  · intro ⟨nodup, pairs, alone⟩
    refine ⟨nodup, fun a member single => ?_, fun a aMember b bMember pair => ?_⟩
    · exact (eq_singleton_iff_of_nodup nodup member).mp (alone a member single)
    · by_contra ne
      exact pairs a aMember b bMember ne pair

/-- Why a declaration is refused: a repetition before all else, and of several names that the rule
clashes with the earliest. -/
inductive Refused (t : Exclusions) (seen : List String) (rule : String) : Conflict → Prop
  | repeated (declared : rule ∈ seen) : Refused t seen rule (.repeatedRule rule)
  | clash (before : List String) (other : String) (after : List String) (fresh : rule ∉ seen)
      (position : seen = before ++ other :: after) (clashes : t.Clashes rule other)
      (earliest : ∀ a ∈ before, ¬ t.Clashes rule a) : Refused t seen rule (.together rule other)

theorem find?_excludes_eq_some_iff : seen.find? (t.excludes rule) = some other ↔
    ∃ before after, seen = before ++ other :: after ∧ t.Clashes rule other ∧
      ∀ a ∈ before, ¬ t.Clashes rule a := by
  rw [List.find?_eq_some_iff_append, excludes_iff]
  simp only [Bool.not_eq_true', Bool.eq_false_iff, ne_eq, excludes_iff]
  constructor
  · intro ⟨clashes, before, after, position, earliest⟩
    exact ⟨before, after, position, clashes, earliest⟩
  · intro ⟨before, after, position, clashes, earliest⟩
    exact ⟨clashes, before, after, position, earliest⟩

/-- A refused declaration gives back the names it was given. -/
theorem declare_eq_error_iff :
    t.declare seen rule = (.error e, names) ↔ names = seen ∧ t.Refused seen rule e := by
  unfold declare
  by_cases repeated : rule ∈ seen
  · rw [if_pos (List.contains_iff_mem.mpr repeated)]
    constructor
    · intro failed
      cases failed
      exact ⟨rfl, .repeated repeated⟩
    · rintro ⟨rfl, refused⟩
      cases refused with
      | repeated => rfl
      | clash _ _ _ fresh => exact absurd repeated fresh
  · rw [if_neg (mt List.contains_iff_mem.mp repeated)]
    constructor
    · intro failed
      cases found : seen.find? (t.excludes rule) with
      | none =>
          rw [found] at failed
          cases failed
      | some other =>
          rw [found] at failed
          cases failed
          obtain ⟨before, after, position, clashes, earliest⟩ := find?_excludes_eq_some_iff.mp found
          exact ⟨rfl, .clash before other after repeated position clashes earliest⟩
    · rintro ⟨rfl, refused⟩
      cases refused with
      | repeated declared => exact absurd declared repeated
      | clash before other after _ position clashes earliest =>
          have found : names.find? (t.excludes rule) = some other :=
            find?_excludes_eq_some_iff.mpr ⟨before, after, position, clashes, earliest⟩
          rw [found]

private theorem allows_iff_not_clashes {a : String} :
    t.Allows a rule ↔ a ≠ rule ∧ ¬ t.Clashes rule a := by
  rw [allows_iff, excludes_comm, Bool.eq_false_iff, ne_eq (t.excludes rule a), excludes_iff]
  rfl

/-- A declaration is allowed exactly if it is new and clashes with nothing, and puts its name behind
those declared before. -/
private theorem declare_eq_ok_iff_fresh : t.declare seen rule = (.ok (), names) ↔
    names = seen ++ [rule] ∧ rule ∉ seen ∧ ∀ a ∈ seen, ¬ t.Clashes rule a := by
  rw [declare_eq_ok_iff]
  simp only [allows_iff_not_clashes, forall_and]
  refine and_congr_right fun _ => and_congr_left fun _ => ?_
  exact ⟨fun different member => different rule member rfl,
    fun fresh a member same => fresh (same ▸ member)⟩

/-- The names declared after a row of declarations, whatever becomes of the single ones. -/
def keep (t : Exclusions) (seen rules : List String) : List String :=
  rules.foldl (fun names rule => (t.declare names rule).2) seen

private theorem keep_cons : t.keep seen (rule :: rest) = t.keep (t.declare seen rule).2 rest := rfl

private theorem keep_append : t.keep seen (rules ++ rest) = t.keep (t.keep seen rules) rest :=
  List.foldl_append

private theorem keep_of_error (failed : (t.declare seen rule).1 = .error e) :
    t.keep seen (rule :: rest) = t.keep seen rest := by
  have whole : t.declare seen rule = (.error e, (t.declare seen rule).2) := Prod.ext failed rfl
  rw [keep_cons, (declare_eq_error_iff.mp whole).1]

/-- The names that are kept are declared without a fault if they are all that is declared. -/
private theorem exists_declareAll_eq_keep (seen rules : List String) :
    ∃ kept : List String, kept.Sublist rules ∧
      t.declareAll seen kept = .ok (t.keep seen rules) := by
  induction rules generalizing seen with
  | nil => exact ⟨[], List.Sublist.slnil, rfl⟩
  | cons rule rules ih =>
      cases outcome : (t.declare seen rule).1 with
      | ok _ =>
          obtain ⟨kept, sublist, succeeded⟩ := ih (t.declare seen rule).2
          refine ⟨rule :: kept, sublist.cons_cons rule, ?_⟩
          exact declareAll_cons_eq_ok_iff.mpr ⟨_, Prod.ext outcome rfl, succeeded⟩
      | error e =>
          obtain ⟨kept, sublist, succeeded⟩ := ih seen
          rw [keep_of_error outcome]
          exact ⟨kept, sublist.cons rule, succeeded⟩

theorem declareAll_nil_eq_ok_iff :
    t.declareAll [] rules = .ok names ↔ names = rules ∧ t.ConflictFree rules := by
  rw [declareAll_eq_ok_iff, follows_nil_iff, admits_iff_conflictFree, List.nil_append, and_comm]

private theorem declareAll_append (seen rules rest : List String) :
    t.declareAll seen (rules ++ rest) =
      (t.declareAll seen rules >>= fun names => t.declareAll names rest) := by
  induction rules generalizing seen with
  | nil => rfl
  | cons rule rules ih =>
      rw [List.cons_append, declareAll, declareAll]
      obtain ⟨outcome, names⟩ := t.declare seen rule
      cases outcome with
      | error e => rfl
      | ok _ => exact ih names

/-- A row fails at the first rule that is refused beside the ones before it. -/
theorem declareAll_eq_error_iff : t.declareAll seen rules = .error e ↔
    ∃ before rule after names, rules = before ++ rule :: after ∧
      t.declareAll seen before = .ok names ∧ t.Refused names rule e := by
  constructor
  · intro failed
    induction rules generalizing seen with
    | nil => cases failed
    | cons rule rules ih =>
        rw [declareAll] at failed
        cases outcome : t.declare seen rule with
        | mk verdict names =>
            rw [outcome] at failed
            cases verdict with
            | error e' =>
                cases failed
                exact ⟨[], rule, rules, seen, rfl, rfl, (declare_eq_error_iff.mp outcome).2⟩
            | ok _ =>
                obtain ⟨before, rule', after, names', rfl, passed, refused⟩ := ih failed
                refine ⟨rule :: before, rule', after, names', rfl, ?_, refused⟩
                exact declareAll_cons_eq_ok_iff.mpr ⟨names, outcome, passed⟩
  · rintro ⟨before, rule, after, names, rfl, passed, refused⟩
    have failed : t.declare names rule = (.error e, names) :=
      declare_eq_error_iff.mpr ⟨rfl, refused⟩
    rw [declareAll_append, passed, ok_bind, declareAll, failed]

theorem declareAll_nil_eq_error_iff : t.declareAll [] rules = .error e ↔
    ∃ before rule after, rules = before ++ rule :: after ∧ t.ConflictFree before ∧
      t.Refused before rule e := by
  rw [declareAll_eq_error_iff]
  constructor
  · rintro ⟨before, rule, after, names, split, passed, refused⟩
    obtain ⟨rfl, free⟩ := declareAll_nil_eq_ok_iff.mp passed
    exact ⟨names, rule, after, split, free, refused⟩
  · rintro ⟨before, rule, after, split, free, refused⟩
    exact ⟨before, rule, after, before, split, declareAll_nil_eq_ok_iff.mpr ⟨rfl, free⟩, refused⟩

/-- The names kept are free of conflicts, and none is kept that was not declared. -/
private theorem keep_nil (rules : List String) :
    t.ConflictFree (t.keep [] rules) ∧ (t.keep [] rules).Sublist rules := by
  obtain ⟨kept, sublist, succeeded⟩ := exists_declareAll_eq_keep (t := t) [] rules
  obtain ⟨same, free⟩ := declareAll_nil_eq_ok_iff.mp succeeded
  rw [same]
  exact ⟨free, sublist⟩

private theorem repeatedRule_message : (Conflict.repeatedRule rule).message =
    "cannot have multi `" ++ rule ++ "` rules on the same field" := by
  change "cannot have multi " ++ quoted rule ++ " rules on the same field" = _
  rw [← String.toList_inj, quoted]
  simp only [String.toList_append, List.append_assoc]
  rfl

private theorem together_message : (Conflict.together rule other).message =
    "cannot have both `" ++ rule ++ "` and `" ++ other ++ "` rules on the same field" := by
  change "cannot have both " ++ quoted rule ++ " and " ++ quoted other ++
    " rules on the same field" = _
  rw [← String.toList_inj, quoted, quoted]
  simp only [String.toList_append, List.append_assoc]
  rfl

/-- Declared on nothing, a row of names succeeds throughout exactly if it is free of conflicts, and
then just these names are declared; otherwise the first name that is refused beside those before it
is reported. A declaration is refused exactly if it is a repetition or clashes with an earlier one,
of which it names the earliest, and it gives back the names it was given: a row with a refused
declaration goes on as if it had not been made. -/
theorem declarations_succeed_iff_conflictFree (t : Exclusions) :
    (∀ rules names, t.declareAll [] rules = .ok names ↔ names = rules ∧ t.ConflictFree rules) ∧
    (∀ rules e, t.declareAll [] rules = .error e ↔
      ∃ before rule after, rules = before ++ rule :: after ∧ t.ConflictFree before ∧
        t.Refused before rule e) ∧
    (∀ seen rule names, t.declare seen rule = (.ok (), names) ↔
      names = seen ++ [rule] ∧ rule ∉ seen ∧ ∀ a ∈ seen, ¬ t.Clashes rule a) ∧
    (∀ seen rule e names, t.declare seen rule = (.error e, names) ↔
      names = seen ∧ t.Refused seen rule e) ∧
    (∀ before rule after e, (t.declare (t.keep [] before) rule).1 = .error e →
      t.keep [] (before ++ rule :: after) = t.keep [] (before ++ after)) ∧
    (∀ rules, t.ConflictFree (t.keep [] rules) ∧ (t.keep [] rules).Sublist rules) ∧
    (∀ rule, (Conflict.repeatedRule rule).message =
      "cannot have multi `" ++ rule ++ "` rules on the same field") ∧
    ∀ rule other, (Conflict.together rule other).message =
      "cannot have both `" ++ rule ++ "` and `" ++ other ++ "` rules on the same field" := by
  refine ⟨fun _ _ => declareAll_nil_eq_ok_iff, fun _ _ => declareAll_nil_eq_error_iff,
    fun _ _ _ => declare_eq_ok_iff_fresh, fun _ _ _ _ => declare_eq_error_iff,
    fun before rule after e failed => ?_, keep_nil, fun _ => repeatedRule_message,
    fun _ _ => together_message⟩
  rw [keep_append, keep_append, keep_of_error failed]

/-- The bounds of a number that do not go together, and `const`, which goes with no other rule. -/
def boundExclusions : Exclusions where
  alone := ["const"]
  pairs := [("lt", "lte"), ("in", "not_in")]

/-- Beside `lte` and `in`, neither `lt` nor `const` nor `not_in` is declared, and `gt` still is. -/
theorem bounds_declared_past_refusals :
    boundExclusions.Refused ["lte", "in"] "lt" (.together "lt" "lte") ∧
      boundExclusions.Refused ["lte", "in"] "const" (.together "const" "lte") ∧
      boundExclusions.keep [] ["lte", "in", "lt", "const", "not_in", "gt"] = ["lte", "in", "gt"] ∧
      boundExclusions.ConflictFree ["lte", "in", "gt"] ∧
      (Conflict.together "lt" "lte").message =
        "cannot have both `lt` and `lte` rules on the same field" := by
  obtain ⟨succeeds, _, _, refuses, passes, _, _, wording⟩ :=
    declarations_succeed_iff_conflictFree boundExclusions
  have lt : boundExclusions.declare ["lte", "in"] "lt" =
      (.error (.together "lt" "lte"), ["lte", "in"]) := by decide
  have const : boundExclusions.declare ["lte", "in"] "const" =
      (.error (.together "const" "lte"), ["lte", "in"]) := by decide
  refine ⟨((refuses _ _ _ _).mp lt).2, ((refuses _ _ _ _).mp const).2, ?_, ?_, wording "lt" "lte"⟩
  · have past : boundExclusions.keep [] ["lte", "in", "const", "not_in", "gt"] =
        ["lte", "in", "gt"] := by decide
    refine (passes ["lte", "in"] "lt" ["const", "not_in", "gt"] (.together "lt" "lte") ?_).trans
      past
    decide
  · exact ((succeeds ["lte", "in", "gt"] ["lte", "in", "gt"]).mp (by decide)).2

end ProtoRules.Exclusions
