import Mathlib.Data.List.Forall2
import Mathlib.Data.List.Nodup
import Mathlib.Data.List.Perm.Basic
import ProtoRules.Check.Checker
import ProtoRules.Emit.JavaClass
import ProtoRules.Emit.RustMethod
import ProtoRules.Proofs.Outcome

/-!
The fields that a validator checks: those without a oneof, then those of each oneof that the message
declares. A field is checked as often as its oneof is declared, be that never or more than once.
-/

namespace ProtoRules

namespace Message

variable {m : Message}

def renderedFields (m : Message) : List Field :=
  m.plainFields ++ m.oneofs.flatMap fun oneof => m.oneofFields oneof.name

section Count

variable [DecidableEq Field]

private theorem count_plainFields (field : Field) :
    m.plainFields.count field = if field.oneof = none then m.fields.count field else 0 := by
  split
  · exact List.count_filter (by simp [*])
  · rename_i inOneof
    apply List.count_eq_zero.mpr
    intro member
    have plain : field.oneof.isNone = true := (List.mem_filter.mp member).2
    exact inOneof (Option.isNone_iff_eq_none.mp plain)

private theorem count_oneofFields (name : String) (field : Field) :
    (m.oneofFields name).count field =
    if field.oneof = some name then m.fields.count field else 0 := by
  split
  · exact List.count_filter (by simp [*])
  · rename_i elsewhere
    apply List.count_eq_zero.mpr
    intro member
    have inside : (field.oneof == some name) = true := (List.mem_filter.mp member).2
    exact elsewhere (beq_iff_eq.mp inside)

private theorem count_members (oneofs : List Oneof) (field : Field) :
    (oneofs.flatMap fun oneof => m.oneofFields oneof.name).count field =
      oneofs.countP (fun oneof => field.oneof = some oneof.name) * m.fields.count field := by
  induction oneofs with
  | nil => simp
  | cons oneof oneofs ih =>
      rw [List.flatMap_cons, List.count_append, ih, count_oneofFields, List.countP_cons,
        Nat.add_mul, Nat.add_comm]
      by_cases own : field.oneof = some oneof.name
      · simp [own]
      · simp [own]

private theorem count_renderedFields (field : Field) : m.renderedFields.count field =
    (if field.oneof = none then 1
      else m.oneofs.countP fun oneof => field.oneof = some oneof.name) * m.fields.count field := by
  rw [renderedFields, List.count_append, count_plainFields, count_members]
  by_cases plain : field.oneof = none
  · simp [plain]
  · simp [plain]

end Count

private theorem countP_declared (name : String) :
    (m.oneofs.countP fun oneof => some name = some oneof.name) =
      m.oneofs.countP (·.name == name) := by
  congr
  funext oneof
  simp [Bool.beq_eq_decide_eq, eq_comm]

theorem renderedFields_perm_iff : m.renderedFields.Perm m.fields ↔
    ∀ field ∈ m.fields, ∀ name ∈ field.oneof, m.oneofs.countP (·.name == name) = 1 := by
  classical
  rw [List.perm_iff_count]
  simp only [count_renderedFields]
  constructor
  · intro once field member name inside
    have positive := List.count_pos_iff.mpr member
    have whole := once field
    rw [Option.mem_def.mp inside, if_neg (by simp), countP_declared] at whole
    exact Nat.eq_of_mul_eq_mul_right positive (by rw [whole, Nat.one_mul])
  · intro once field
    by_cases member : field ∈ m.fields
    · cases inside : field.oneof with
      | none => simp
      | some name =>
          rw [if_neg (by simp), countP_declared, once field member name inside, Nat.one_mul]
    · rw [List.count_eq_zero.mpr member, Nat.mul_zero]

theorem mem_fields_of_mem_renderedFields {field : Field} (member : field ∈ m.renderedFields) :
    field ∈ m.fields := by
  rcases List.mem_append.mp member with plain | inside
  · exact (List.mem_filter.mp plain).1
  · obtain ⟨oneof, _, inside⟩ := List.mem_flatMap.mp inside
    exact (List.mem_filter.mp inside).1

theorem renderedFields_nodup (fields : m.fields.Nodup) (oneofs : (m.oneofs.map Oneof.name).Nodup) :
    m.renderedFields.Nodup := by
  classical
  apply List.nodup_iff_count_le_one.mpr
  intro field
  have occurs := List.nodup_iff_count_le_one.mp fields field
  have selected : (if field.oneof = none then 1
      else m.oneofs.countP fun oneof => field.oneof = some oneof.name) ≤ 1 := by
    cases inside : field.oneof with
    | none => simp
    | some name =>
        have declared := List.nodup_iff_count_le_one.mp oneofs name
        rw [List.count, List.countP_map] at declared
        rw [if_neg (by simp), countP_declared]
        exact declared
  rw [count_renderedFields]
  exact Nat.mul_le_mul selected occurs

end Message

variable {α β : Type}

/-- The outcomes of a step on some inputs, one for each. -/
abbrev Outcomes (f : α → Rendered β) : List α → List β → Prop :=
  List.Forall₂ fun a b => f a = .ok b

theorem Outcomes.append {f : α → Rendered β} {xs ys : List α} {as bs : List β}
    (first : Outcomes f xs as) (rest : Outcomes f ys bs) : Outcomes f (xs ++ ys) (as ++ bs) := by
  induction first with
  | nil => exact rest
  | cons step _ ih => exact .cons step ih

theorem Outcomes.congr {f g : α → Rendered β} {xs : List α} {ys : List β}
    (same : ∀ x ∈ xs, f x = g x) (outcomes : Outcomes f xs ys) : Outcomes g xs ys := by
  induction outcomes with
  | nil => exact .nil
  | cons step _ ih =>
      obtain ⟨first, rest⟩ := List.forall_mem_cons.mp same
      exact .cons (first ▸ step) (ih rest)

theorem concatM_eq_ok_iff {f : α → Rendered (List β)} {xs : List α} {ys : List β} :
    concatM f xs = .ok ys ↔ ∃ parts, Outcomes f xs parts ∧ ys = parts.flatten := by
  induction xs generalizing ys with
  | nil =>
      constructor
      · rintro ⟨⟩
        exact ⟨[], .nil, rfl⟩
      · rintro ⟨_, ⟨⟩, rfl⟩
        rfl
  | cons x xs ih =>
      simp only [concatM, bind_eq_ok_iff, pure_eq_ok_iff]
      constructor
      · rintro ⟨part, first, rest, later, rfl⟩
        obtain ⟨parts, outcomes, rfl⟩ := ih.mp later
        exact ⟨part :: parts, .cons first outcomes, rfl⟩
      · rintro ⟨_, _ | ⟨first, outcomes⟩, rfl⟩
        exact ⟨_, first, _, ih.mpr ⟨_, outcomes, rfl⟩, rfl⟩

private theorem concatM_singletons {f : α → Rendered β} {xs : List α} {ys : List β}
    (written : concatM (fun x => do return [← f x]) xs = .ok ys) : Outcomes f xs ys := by
  induction xs generalizing ys with
  | nil =>
      cases written
      exact .nil
  | cons x xs ih =>
      simp only [concatM, bind_eq_ok_iff, pure_eq_ok_iff] at written
      obtain ⟨_, ⟨y, first, rfl⟩, rest, later, rfl⟩ := written
      exact .cons first (ih later)

/-- What a pass writes for a field of a message. -/
def Pass.renderField (p : Pass α) (message : Message) (field : Field) : Rendered (List α) := do
  p.render (← ProjectionError.render (Context.ofField message field))

namespace Java

variable {schema : Schema} {message : Message}

/-- The constants of a oneof: its own error, and those of each of its members. -/
structure OneofConstants where
  own : List Constant
  members : List (List Constant)

namespace OneofConstants

def all (g : OneofConstants) : List Constant :=
  g.own ++ g.members.flatten

end OneofConstants

def oneofError (message : Message) (oneof : Oneof) : Rendered (List Constant) := do
  match (← SchemaError.render oneof.rules).bind (·.error) with
  | some spec => do
    let base ← SchemaError.render message.errorBase
    return [⟨Constant.errorType, oneofErrorName oneof, errorCall base spec⟩]
  | none => return []

namespace ClassBody

/-- A class in which each field of a list has its constants and its statements, those of members in
the cases of their oneofs; the only other constants are the errors of oneofs. -/
structure Covers (schema : Schema) (message : Message) (fields : List Field) (body : ClassBody) :
    Prop where
  statements : ∃ plain, body.statements = plain.flatten ∧
    Outcomes ((statementsPass schema).renderField message) fields
      (plain ++ body.switches.flatMap fun s => s.cases.map Case.body)
  constants : ∃ (plain : List (List Constant)) (groups : List OneofConstants),
    body.constants = plain.flatten ++ groups.flatMap OneofConstants.all ∧
    Outcomes ((constantsPass schema).renderField message) fields
      (plain ++ groups.flatMap OneofConstants.members) ∧
    Outcomes (oneofError message) message.oneofs (groups.map OneofConstants.own)

private theorem ofPlainFields_eq_ok {fields : List Field} {constants : List Constant}
    {statements : List Statement}
    (written : ofPlainFields schema message fields = .ok (constants, statements)) :
    (∃ parts, constants = parts.flatten ∧
      Outcomes ((constantsPass schema).renderField message) fields parts) ∧
    ∃ parts, statements = parts.flatten ∧
      Outcomes ((statementsPass schema).renderField message) fields parts := by
  induction fields generalizing constants statements with
  | nil =>
      cases written
      exact ⟨⟨[], rfl, .nil⟩, ⟨[], rfl, .nil⟩⟩
  | cons field fields ih =>
      simp only [ofPlainFields, bind_eq_ok_iff, pure_eq_ok_iff] at written
      obtain ⟨c, projected, ks, declared, ss, checked, ⟨moreKs, moreSs⟩, later, same⟩ := written
      cases same
      obtain ⟨⟨kParts, rfl, kOutcomes⟩, ⟨sParts, rfl, sOutcomes⟩⟩ := ih later
      have constants : (constantsPass schema).renderField message field = .ok ks :=
        bind_eq_ok_iff.mpr ⟨c, projected, declared⟩
      have statements : (statementsPass schema).renderField message field = .ok ss :=
        bind_eq_ok_iff.mpr ⟨c, projected, checked⟩
      exact ⟨⟨ks :: kParts, rfl, .cons constants kOutcomes⟩,
        ⟨ss :: sParts, rfl, .cons statements sOutcomes⟩⟩

private theorem oneofConstants_eq_ok {oneof : Oneof} {constants : List Constant}
    (written : oneofConstants schema message oneof = .ok constants) :
    ∃ g : OneofConstants, constants = g.all ∧ oneofError message oneof = .ok g.own ∧
      Outcomes ((constantsPass schema).renderField message) (message.oneofFields oneof.name)
        g.members := by
  obtain ⟨rules, read, written⟩ := bind_eq_ok_iff.mp written
  have whole : ∃ own members, oneofError message oneof = .ok own ∧
      concatM ((constantsPass schema).renderField message) (message.oneofFields oneof.name) =
        .ok members ∧ constants = own ++ members := by
    simp only [oneofError, read, ok_bind]
    cases error : rules.bind (·.error) with
    | none =>
        simp only [error, bind_eq_ok_iff, pure_eq_ok_iff] at written
        obtain ⟨_, rfl, members, listed, rfl⟩ := written
        exact ⟨[], members, rfl, listed, rfl⟩
    | some spec =>
        simp only [error, bind_eq_ok_iff, pure_eq_ok_iff] at written
        obtain ⟨base, readable, own, rfl, members, listed, rfl⟩ := written
        exact ⟨_, members, bind_eq_ok_iff.mpr ⟨base, readable, rfl⟩, listed, rfl⟩
  obtain ⟨own, _, declared, members, rfl⟩ := whole
  obtain ⟨parts, outcomes, rfl⟩ := concatM_eq_ok_iff.mp members
  exact ⟨⟨own, parts⟩, rfl, declared, outcomes⟩

private theorem oneofSwitch_eq_ok {oneof : Oneof} {switch : Switch}
    (written : oneofSwitch schema message oneof = .ok switch) :
    Outcomes ((statementsPass schema).renderField message) (message.oneofFields oneof.name)
      (switch.cases.map Case.body) := by
  simp only [oneofSwitch, bind_eq_ok_iff] at written
  obtain ⟨cases, members, rules, _, written⟩ := written
  have same : switch.cases = cases := by
    split at written
    · cases written
    · cases written
      rfl
    · cases written
      rfl
  rw [same]
  refine List.forall₂_map_right_iff.mpr ((concatM_singletons members).imp ?_)
  intro field k written
  simp only [oneofCase, bind_eq_ok_iff, pure_eq_ok_iff] at written
  obtain ⟨c, projected, body, checked, rfl⟩ := written
  exact bind_eq_ok_iff.mpr ⟨c, projected, checked⟩

private theorem ofOneofs_eq_ok {oneofs : List Oneof} {constants : List Constant}
    {switches : List Switch}
    (written : ofOneofs schema message oneofs = .ok (constants, switches)) :
    (∃ groups : List OneofConstants, constants = groups.flatMap OneofConstants.all ∧
      Outcomes ((constantsPass schema).renderField message)
        (oneofs.flatMap fun oneof => message.oneofFields oneof.name)
        (groups.flatMap OneofConstants.members) ∧
      Outcomes (oneofError message) oneofs (groups.map OneofConstants.own)) ∧
    Outcomes ((statementsPass schema).renderField message)
      (oneofs.flatMap fun oneof => message.oneofFields oneof.name)
      (switches.flatMap fun s => s.cases.map Case.body) := by
  induction oneofs generalizing constants switches with
  | nil =>
      cases written
      exact ⟨⟨[], rfl, .nil, .nil⟩, .nil⟩
  | cons oneof oneofs ih =>
      simp only [ofOneofs, bind_eq_ok_iff, pure_eq_ok_iff] at written
      obtain ⟨ks, declared, switch, checked, ⟨moreKs, more⟩, later, same⟩ := written
      cases same
      obtain ⟨g, rfl, own, members⟩ := oneofConstants_eq_ok declared
      obtain ⟨⟨groups, rfl, laterMembers, laterOwn⟩, laterCases⟩ := ih later
      exact ⟨⟨g :: groups, rfl, members.append laterMembers, .cons own laterOwn⟩,
        (oneofSwitch_eq_ok checked).append laterCases⟩

theorem covers_of_ofMessage {body : ClassBody} (written : ofMessage schema message = .ok body) :
    body.Covers schema message message.renderedFields := by
  simp only [ofMessage, bind_eq_ok_iff, pure_eq_ok_iff] at written
  obtain ⟨⟨ks, ss⟩, plain, ⟨memberKs, switches⟩, members, rfl⟩ := written
  obtain ⟨⟨kParts, rfl, kOutcomes⟩, ⟨sParts, rfl, sOutcomes⟩⟩ := ofPlainFields_eq_ok plain
  obtain ⟨⟨groups, rfl, gOutcomes, own⟩, cases⟩ := ofOneofs_eq_ok members
  exact ⟨⟨sParts, rfl, sOutcomes.append cases⟩,
    ⟨kParts, groups, rfl, kOutcomes.append gOutcomes, own⟩⟩

end ClassBody

end Java

namespace Rust

variable {schema : Schema} {package : String} {message : Message}

/-- The checks of a field; those of a member go by the name that its oneof is matched with. -/
def fieldChecks (schema : Schema) (package : String) (message : Message) (field : Field) :
    Rendered Tokens := do
  let c ← ProjectionError.render (Context.ofField message field)
  (checksPass schema package).render
    (if field.oneof.isSome then { c with accessor := some "v" } else c)

structure Arm where
  variant : Token
  checks : Tokens

structure Match where
  field : Token
  type : Tokens
  arms : List Arm
  missing : Tokens

def Arm.tokens (type : Tokens) (a : Arm) : Tokens :=
  arm (optionSome ++ [parens (type ++ [.op "::", a.variant, parens [.word "v"]])]) a.checks

def Match.tokens (m : Match) : Tokens :=
  [.word "match", .op "&", .word "self", .op ".", m.field,
    braces (m.arms.flatMap (Arm.tokens m.type) ++ arm optionNone m.missing)]

/-- The body of a method part by part. -/
structure Body where
  checks : List Tokens
  oneofs : List Match

namespace Body

def tokens (b : Body) : Tokens :=
  b.checks.flatten ++ b.oneofs.flatMap Match.tokens

/-- The checks of all fields in their order. -/
def parts (b : Body) : List Tokens :=
  b.checks ++ b.oneofs.flatMap fun m => m.arms.map Arm.checks

end Body

private theorem plainField_eq {field : Field} (plain : field.oneof = none) :
    plainField schema package message field = fieldChecks schema package message field := by
  rw [plainField, fieldChecks, plain]
  rfl

private theorem memberArm_eq_ok {type tokens : Tokens} {field : Field}
    (member : field.oneof.isSome = true)
    (written : memberArm schema package message type field = .ok tokens) :
    ∃ a : Arm, tokens = a.tokens type ∧
      fieldChecks schema package message field = .ok a.checks := by
  simp only [memberArm, bind_eq_ok_iff, pure_eq_ok_iff] at written
  obtain ⟨c, projected, checks, checked, variant, _, rfl⟩ := written
  refine ⟨⟨variant, checks⟩, rfl, ?_⟩
  rw [fieldChecks, projected, ok_bind, if_pos member]
  exact checked

private theorem arms_eq_ok {type : Tokens} {fields : List Field} {parts : List Tokens}
    (members : ∀ field ∈ fields, field.oneof.isSome = true)
    (written : Outcomes (memberArm schema package message type) fields parts) :
    ∃ arms : List Arm, parts = arms.map (Arm.tokens type) ∧
      Outcomes (fieldChecks schema package message) fields (arms.map Arm.checks) := by
  induction written with
  | nil => exact ⟨[], rfl, .nil⟩
  | cons first _ ih =>
      obtain ⟨member, members⟩ := List.forall_mem_cons.mp members
      obtain ⟨a, rfl, checked⟩ := memberArm_eq_ok member first
      obtain ⟨arms, rfl, outcomes⟩ := ih members
      exact ⟨a :: arms, rfl, .cons checked outcomes⟩

private theorem oneofMatch_eq_ok {oneof : Oneof} {tokens : Tokens}
    (written : oneofMatch schema package message oneof = .ok tokens) :
    ∃ m : Match, tokens = m.tokens ∧ Outcomes (fieldChecks schema package message)
      (message.oneofFields oneof.name) (m.arms.map Arm.checks) := by
  simp only [oneofMatch, bind_eq_ok_iff, pure_eq_ok_iff] at written
  obtain ⟨field, _, type, _, arms, listed, missing, _, rfl⟩ := written
  obtain ⟨parts, outcomes, rfl⟩ := concatM_eq_ok_iff.mp listed
  have members : ∀ member ∈ message.oneofFields oneof.name, member.oneof.isSome = true := by
    intro member inside
    rw [eq_of_beq (List.mem_filter.mp inside).2]
    rfl
  obtain ⟨arms, rfl, checked⟩ := arms_eq_ok members outcomes
  exact ⟨⟨field, type, arms, missing⟩, by rw [Match.tokens, List.flatMap_def], checked⟩

private theorem matches_eq_ok {oneofs : List Oneof} {parts : List Tokens}
    (written : Outcomes (oneofMatch schema package message) oneofs parts) :
    ∃ ms : List Match, parts = ms.map Match.tokens ∧
      Outcomes (fieldChecks schema package message)
        (oneofs.flatMap fun oneof => message.oneofFields oneof.name)
        (ms.flatMap fun m => m.arms.map Arm.checks) := by
  induction written with
  | nil => exact ⟨[], rfl, .nil⟩
  | cons first _ ih =>
      obtain ⟨m, rfl, members⟩ := oneofMatch_eq_ok first
      obtain ⟨ms, rfl, outcomes⟩ := ih
      exact ⟨m :: ms, rfl, members.append outcomes⟩

/-- The body of a method that is written consists of the checks of the fields, those of the members
inside the matches of their oneofs. -/
private theorem body_of_bodyTokens {tokens : Tokens} (enabled : message.isDisabled = .ok false)
    (written : bodyTokens schema package message = .ok tokens) :
    ∃ body : Body, tokens = body.tokens ∧
      Outcomes (fieldChecks schema package message) message.renderedFields body.parts := by
  rw [bodyTokens, enabled] at written
  obtain ⟨_, ⟨⟩, written⟩ := bind_eq_ok_iff.mp written
  simp only [Bool.false_eq_true, if_false, bind_eq_ok_iff, pure_eq_ok_iff] at written
  obtain ⟨_, plain, _, members, rfl⟩ := written
  obtain ⟨checks, checked, rfl⟩ := concatM_eq_ok_iff.mp plain
  obtain ⟨_, matched, rfl⟩ := concatM_eq_ok_iff.mp members
  obtain ⟨ms, rfl, outcomes⟩ := matches_eq_ok matched
  have same : ∀ field ∈ message.plainFields, plainField schema package message field =
      fieldChecks schema package message field := fun field member =>
    plainField_eq (Option.isNone_iff_eq_none.mp (List.mem_filter.mp member).2)
  exact ⟨⟨checks, ms⟩, by rw [Body.tokens, List.flatMap_def], (checked.congr same).append outcomes⟩

end Rust

/-- Both languages write the checks of the rendered fields, and the constants for them, once each.
These are the fields of the message in some order exactly if every oneof that a field belongs to is
declared once. -/
theorem fields_rendered_once_iff {message : Message} (enabled : message.isDisabled = .ok false) :
    (message.renderedFields.Perm message.fields ↔
      ∀ field ∈ message.fields, ∀ name ∈ field.oneof,
        message.oneofs.countP (·.name == name) = 1) ∧
    (∀ schema body, Java.ClassBody.ofMessage schema message = .ok body →
      body.Covers schema message message.renderedFields) ∧
    ∀ schema package tokens, Rust.bodyTokens schema package message = .ok tokens →
      ∃ body : Rust.Body, tokens = body.tokens ∧
        Outcomes (Rust.fieldChecks schema package message) message.renderedFields body.parts :=
  ⟨Message.renderedFields_perm_iff, fun _ _ written => Java.ClassBody.covers_of_ofMessage written,
    fun _ _ _ written => Rust.body_of_bodyTokens enabled written⟩

/-! A message with a member of a oneof, and what the message declares of it. -/

def shortText (name : String) (oneof : Option String) : Field where
  name := name
  shape := .single (.scalar .string)
  oneof := oneof
  extensions := Extensions.insert {} rulesKey (.obj [("string", .obj [("rules", .arr [
    .obj [("max_len", .int 9), ("error", .obj [("method", .str "tooLong")])]])])])

def contact (oneofs : List Oneof) : Message where
  name := "Contact"
  fields := [shortText "email" (some "address"), shortText "name" none]
  oneofs := oneofs

def contacts (oneofs : List Oneof) : File where
  name := "contacts.proto"
  messages := [contact oneofs]

def address : Oneof := { name := "address" }

theorem contact_fields_rendered_once : (contact [address]).isDisabled = .ok false ∧
    (contact [address]).renderedFields.Perm (contact [address]).fields := by
  have enabled : (contact [address]).isDisabled = .ok false := rfl
  obtain ⟨once, _⟩ := fields_rendered_once_iff enabled
  refine ⟨enabled, once.mpr fun field member name inside => ?_⟩
  rcases List.mem_cons.mp member with rfl | member
  · cases inside
    decide
  · cases List.mem_singleton.mp member
    cases inside

/-- The member is not checked if its oneof is not declared, and checked twice if that is declared
twice; both messages are accepted. -/
theorem contact_fields_lost_and_repeated :
    (checkMessage (Schema.ofFiles [contacts []]) (contacts []) (contact []) = .ok () ∧
      (contact []).isDisabled = .ok false ∧ ((contact []).fields.map Field.name).Nodup ∧
      (contact []).renderedFields = [shortText "name" none] ∧
      ¬ (contact []).renderedFields.Perm (contact []).fields) ∧
    (checkMessage (Schema.ofFiles [contacts [address, address]]) (contacts [address, address])
        (contact [address, address]) = .ok () ∧
      (contact [address, address]).isDisabled = .ok false ∧
      ((contact [address, address]).fields.map Field.name).Nodup ∧
      (contact [address, address]).renderedFields =
        [shortText "name" none, shortText "email" (some "address"),
          shortText "email" (some "address")] ∧
      ¬ (contact [address, address]).renderedFields.Perm (contact [address, address]).fields) := by
  refine ⟨⟨rfl, rfl, by decide, rfl, fun perm => ?_⟩, ⟨rfl, rfl, by decide, rfl, fun perm => ?_⟩⟩
  · exact absurd perm.length_eq (by decide)
  · exact absurd perm.length_eq (by decide)

end ProtoRules
