import ProtoRules.Proofs.JsonParts
import ProtoRules.Proofs.NestedDecoding

/-!
Which objects are rule sets, and what the others are refused for. The members of an object are read
in the order of their keys; the first that offends is reported.
-/

namespace ProtoRules

namespace TypedRules

/-- What a value is at fault for as the rules of a kind: the first nested rule set that cannot be
read or, if all of these can be, the value itself. -/
inductive Fault (kind : RuleKind) (payload : Json) : SchemaError → Prop
  | nested (before : List Json) (set : Json) (after : List Json) {e : SchemaError}
      (position : nestedPayloads kind payload = before ++ set :: after)
      (earlier : ∀ other ∈ before, ∃ rules, FieldRules.decode other = .ok rules)
      (failed : FieldRules.decode set = .error e) : Fault kind payload e
  | unread (inside : ∀ set ∈ nestedPayloads kind payload,
        ∃ rules, FieldRules.decode set = .ok rules)
      (unread : ofPayload? (fun j => (FieldRules.decode j).toOption) payload kind = none) :
      Fault kind payload (malformedRules (.unreadable kind.keyword payload))

theorem decode_eq_error_iff {kind : RuleKind} {payload : Json} {e : SchemaError} :
    decode kind payload = .error e ↔ Fault kind payload e := by
  rw [decode, decodeWith, bind_eq_error_iff, forM_eq_error_iff, exists_unit_iff, forM_eq_ok_iff]
  simp only [discard_eq_ok_iff, discard_eq_error_iff]
  constructor
  · rintro (⟨before, set, after, position, earlier, failed⟩ | ⟨inside, failed⟩)
    · exact .nested before set after position earlier failed
    · split at failed
      · cases failed
      · rename_i unread
        cases failed
        exact .unread inside unread
  · intro fault
    cases fault with
    | nested before set after position earlier failed =>
        exact .inl ⟨before, set, after, position, earlier, failed⟩
    | unread inside unread =>
        rw [unread]
        exact .inr ⟨inside, rfl⟩

end TypedRules

namespace FieldRules

/-- Of the members before a key, one holds rules of the given kind that can be read. -/
def ReadBefore (members : List Json.Member) (key : String) (kind : RuleKind) : Prop :=
  kind.keyword < key ∧
    ∃ payload rules, (kind.keyword, payload) ∈ members ∧ TypedRules.decode kind payload = .ok rules

/-- What a member is at fault for: it names no kind, it names a second kind (whatever it holds), or
it holds something that cannot be read as what it names. -/
inductive Offence (members : List Json.Member) : Json.Member → SchemaError → Prop
  | unknown {key : String} {payload : Json} (message : key ≠ messageKey)
      (kind : ∀ kind : RuleKind, key ≠ kind.keyword) :
      Offence members (key, payload) (.unknownRuleKind key)
  | second {first kind : RuleKind} {payload : Json}
      (earlier : ReadBefore members kind.keyword first) :
      Offence members (kind.keyword, payload) (malformedRules (.twoKinds first kind))
  | message {payload : Json} (unread : MessageRules.ofJson? payload = none) :
      Offence members (messageKey, payload) (malformedRules (.unreadable messageKey payload))
  | kind {kind : RuleKind} {payload : Json} {e : SchemaError}
      (only : ∀ first, ¬ ReadBefore members kind.keyword first)
      (failed : TypedRules.decode kind payload = .error e) :
      Offence members (kind.keyword, payload) e

/-- A key is that of the message rules, the name of a kind, or neither. -/
theorem key_cases (key : String) : key = messageKey ∨ (∃ kind : RuleKind, key = kind.keyword) ∨
    key ≠ messageKey ∧ (∀ kind : RuleKind, key ≠ kind.keyword) := by
  by_cases message : key = messageKey
  · exact .inl message
  · by_cases kind : ∃ kind : RuleKind, key = kind.keyword
    · exact .inr (.inl kind)
    · exact .inr (.inr ⟨message, fun k same => kind ⟨k, same⟩⟩)

private theorem ofKeyword?_eq_none {key : String}
    (unknown : ∀ kind : RuleKind, key ≠ kind.keyword) :
    RuleKind.ofKeyword? key = none := by
  cases found : RuleKind.ofKeyword? key with
  | none => rfl
  | some kind => exact absurd (RuleKind.keyword_of_ofKeyword? found).symm (unknown kind)

section Step

variable {rules : FieldRules} {payload : Json}

theorem addMember_read {message : MessageRules}
    (read : MessageRules.ofJson? payload = some message) :
    addMember decode rules (messageKey, payload) = .ok { rules with message := some message } := by
  rw [addMember, if_pos rfl, read]

theorem addMember_unread (unread : MessageRules.ofJson? payload = none) :
    addMember decode rules (messageKey, payload) =
      .error (malformedRules (.unreadable messageKey payload)) := by
  rw [addMember, if_pos rfl, unread]

theorem addMember_unknown {key : String} (message : key ≠ messageKey)
    (kind : ∀ kind : RuleKind, key ≠ kind.keyword) :
    addMember decode rules (key, payload) = .error (.unknownRuleKind key) := by
  rw [addMember, if_neg message, ofKeyword?_eq_none kind]

private theorem addMember_second {first : RuleKind} (held : rules.kind? = some first)
    (kind : RuleKind) :
    addMember decode rules (kind.keyword, payload) =
      .error (malformedRules (.twoKinds first kind)) := by
  rw [addMember, if_neg (keyword_ne_message kind), RuleKind.ofKeyword?_keyword]
  simp only [held]

theorem addMember_first (free : rules.kind? = none) (kind : RuleKind) :
    addMember decode rules (kind.keyword, payload) =
      (TypedRules.decode kind payload).map fun typed => { rules with typed := some typed } := by
  rw [addMember, if_neg (keyword_ne_message kind), RuleKind.ofKeyword?_keyword]
  simp only [free]
  rfl

/-- A member that is added holds either the message rules or the first typed rules. -/
theorem addMember_cases {m : Json.Member} {next : FieldRules}
    (added : addMember decode rules m = .ok next) :
    (∃ message, m.1 = messageKey ∧ next = { rules with message := some message }) ∨
      ∃ kind t, m.1 = RuleKind.keyword kind ∧ rules.kind? = none ∧
        TypedRules.decode kind m.2 = .ok t ∧ next = { rules with typed := some t } := by
  obtain ⟨key, payload⟩ := m
  rcases key_cases key with rfl | ⟨kind, rfl⟩ | ⟨message, unknown⟩
  · cases read : MessageRules.ofJson? payload with
    | some message =>
        exact .inl ⟨message, rfl, Except.ok.inj (added.symm.trans (addMember_read read))⟩
    | none => cases (addMember_unread read).symm.trans added
  · cases held : rules.kind? with
    | some first => cases (addMember_second held kind).symm.trans added
    | none =>
        rw [addMember_first held] at added
        cases decoded : TypedRules.decode kind payload with
        | error e => rw [decoded] at added; cases added
        | ok t =>
            rw [decoded] at added
            exact .inr ⟨kind, t, rfl, rfl, decoded, (Except.ok.inj added).symm⟩
  · cases (addMember_unknown message unknown).symm.trans added

end Step

/-- The typed rules gathered from members are those of the one member that is named by a kind. -/
structure Gathered (members : List Json.Member) (rules : FieldRules) : Prop where
  held : ∀ kind, rules.kind? = some kind →
    ∃ payload t, (kind.keyword, payload) ∈ members ∧ TypedRules.decode kind payload = .ok t
  named : ∀ kind payload, (RuleKind.keyword kind, payload) ∈ members → rules.kind? = some kind

theorem Gathered.addMember {members : List Json.Member} {rules next : FieldRules}
    {m : Json.Member} (gathered : Gathered members rules)
    (added : addMember decode rules m = .ok next) : Gathered (members ++ [m]) next := by
  obtain ⟨key, payload⟩ := m
  rcases addMember_cases added with ⟨message, rfl, rfl⟩ | ⟨first, t, rfl, free, decoded, rfl⟩
  · refine ⟨fun kind held => ?_, fun kind payload listed => ?_⟩
    · obtain ⟨payload, t, listed, decoded⟩ := gathered.held kind held
      exact ⟨payload, t, List.mem_append_left _ listed, decoded⟩
    · rcases List.mem_append.mp listed with earlier | last
      · exact gathered.named kind payload earlier
      · have same := congrArg Prod.fst (List.mem_singleton.mp last)
        exact absurd same (keyword_ne_message kind)
  · have own : t.kind = first := TypedRules.kind_of_decode decoded
    refine ⟨fun kind held => ?_, fun kind payload listed => ?_⟩
    · cases own.symm.trans (Option.some.inj held)
      exact ⟨_, t, List.mem_append_right _ List.mem_cons_self, decoded⟩
    · rcases List.mem_append.mp listed with earlier | last
      · cases free.symm.trans (gathered.named kind _ earlier)
      · have same := RuleKind.keyword_injective (congrArg Prod.fst (List.mem_singleton.mp last))
        exact congrArg some (own.trans same.symm)

theorem Gathered.foldlM {members rest : List Json.Member} {rules next : FieldRules}
    (gathered : Gathered members rules)
    (added : rest.foldlM (FieldRules.addMember decode) rules = .ok next) :
    Gathered (members ++ rest) next := by
  induction rest generalizing members rules with
  | nil =>
      cases added
      rwa [List.append_nil]
  | cons m rest ih =>
      rw [List.foldlM_cons, bind_eq_ok_iff] at added
      obtain ⟨between, first, later⟩ := added
      have regrouped : members ++ m :: rest = (members ++ [m]) ++ rest := by simp
      rw [regrouped]
      exact ih (gathered.addMember first) later

theorem gathered_of_foldlM {members : List Json.Member} {rules : FieldRules}
    (added : members.foldlM (addMember decode) {} = .ok rules) : Gathered members rules := by
  have empty : Gathered [] {} := ⟨nofun, fun _ _ listed => absurd listed List.not_mem_nil⟩
  exact empty.foldlM added

section Offences

variable {members before after : List Json.Member} {m : Json.Member} {rules : FieldRules}
  {e : SchemaError}

theorem mem_before_iff (ordered : (Json.keys members).Pairwise (· < ·))
    (split : members = before ++ m :: after) {other : Json.Member} :
    other ∈ before ↔ other ∈ members ∧ other.1 < m.1 := by
  subst split
  rw [Json.keys, List.map_append, List.map_cons, List.pairwise_append, List.pairwise_cons]
    at ordered
  obtain ⟨_, ⟨later, _⟩, earlier⟩ := ordered
  constructor
  · intro listed
    exact ⟨List.mem_append_left _ listed,
      earlier _ (List.mem_map_of_mem listed) _ List.mem_cons_self⟩
  · rintro ⟨listed, less⟩
    rcases List.mem_append.mp listed with inBefore | inRest
    · exact inBefore
    · rcases List.mem_cons.mp inRest with rfl | inAfter
      · exact absurd less (lt_irrefl _)
      · exact absurd less (lt_asymm (later _ (List.mem_map_of_mem inAfter)))

/-- A kind that is read before a member is the one that the rules gathered so far have. -/
theorem readBefore_iff (ordered : (Json.keys members).Pairwise (· < ·))
    (split : members = before ++ m :: after)
    (passed : before.foldlM (addMember decode) {} = .ok rules) {kind : RuleKind} :
    ReadBefore members m.1 kind ↔ rules.kind? = some kind := by
  have gathered := gathered_of_foldlM passed
  constructor
  · rintro ⟨less, payload, t, listed, decoded⟩
    exact gathered.named kind payload ((mem_before_iff ordered split).mpr ⟨listed, less⟩)
  · intro held
    obtain ⟨payload, t, earlier, decoded⟩ := gathered.held kind held
    obtain ⟨listed, less⟩ := (mem_before_iff ordered split).mp earlier
    exact ⟨less, payload, t, listed, decoded⟩

/-- Once the members before it are read, a member offends exactly as it is refused. -/
theorem offence_iff (ordered : (Json.keys members).Pairwise (· < ·))
    (split : members = before ++ m :: after)
    (passed : before.foldlM (addMember decode) {} = .ok rules) :
    Offence members m e ↔ addMember decode rules m = .error e := by
  have earlier (kind : RuleKind) : ReadBefore members m.1 kind ↔ rules.kind? = some kind :=
    readBefore_iff ordered split passed
  constructor
  · intro offence
    cases offence with
    | unknown message kind => exact addMember_unknown message kind
    | second first => exact addMember_second ((earlier _).mp first) _
    | message unread => exact addMember_unread unread
    | kind only failed =>
        have free : rules.kind? = none :=
          Option.eq_none_iff_forall_not_mem.mpr fun k held => only k ((earlier k).mpr held)
        rw [addMember_first free, failed]
        rfl
  · intro refused
    obtain ⟨key, payload⟩ := m
    rcases key_cases key with rfl | ⟨kind, rfl⟩ | ⟨message, unknown⟩
    · cases read : MessageRules.ofJson? payload with
      | some message => cases (addMember_read read).symm.trans refused
      | none =>
          cases (addMember_unread read).symm.trans refused
          exact .message read
    · cases held : rules.kind? with
      | some first =>
          cases (addMember_second held kind).symm.trans refused
          exact .second ((earlier first).mpr held)
      | none =>
          rw [addMember_first held] at refused
          cases decoded : TypedRules.decode kind payload with
          | ok t => rw [decoded] at refused; cases refused
          | error e' =>
              rw [decoded] at refused
              cases refused
              refine .kind (fun first readBefore => ?_) decoded
              cases held.symm.trans ((earlier first).mp readBefore)
    · cases (addMember_unknown message unknown).symm.trans refused
      exact .unknown message unknown

private theorem not_offence_of_passed (ordered : (Json.keys members).Pairwise (· < ·))
    (split : members = before ++ after) (passed : before.foldlM (addMember decode) {} = .ok rules)
    (listed : m ∈ before) : ¬ Offence members m e := by
  intro offence
  obtain ⟨first, last, rfl⟩ := List.append_of_mem listed
  rw [List.foldlM_append, bind_eq_ok_iff] at passed
  obtain ⟨between, earlier, later⟩ := passed
  rw [List.foldlM_cons, bind_eq_ok_iff] at later
  obtain ⟨next, added, _⟩ := later
  rw [List.append_assoc, List.cons_append] at split
  cases added.symm.trans ((offence_iff ordered split earlier).mp offence)

/-- Decoding fails with what the first offending member is at fault for. -/
theorem decode_obj_eq_error_iff (ordered : (Json.keys members).Pairwise (· < ·)) :
    decode (.obj members) = .error e ↔ ∃ m ∈ members, Offence members m e ∧
      ∀ other ∈ members, other.1 < m.1 → ∀ e', ¬ Offence members other e' := by
  rw [decode_obj]
  constructor
  · intro failed
    obtain ⟨before, m, after, rules, split, passed, refused⟩ := foldlM_eq_error_iff.mp failed
    refine ⟨m, by simp [split], (offence_iff ordered split passed).mpr refused, ?_⟩
    intro other listed less e'
    have earlier : other ∈ before := (mem_before_iff ordered split).mpr ⟨listed, less⟩
    exact not_offence_of_passed ordered split passed earlier
  · rintro ⟨m, listed, offence, first⟩
    obtain ⟨before, after, split⟩ := List.append_of_mem listed
    cases run : before.foldlM (addMember decode) {} with
    | ok rules =>
        have refused := (offence_iff ordered split run).mp offence
        exact foldlM_eq_error_iff.mpr ⟨before, m, after, rules, split, run, refused⟩
    | error e' =>
        obtain ⟨front, culprit, back, rules, within, passed, refused⟩ :=
          foldlM_eq_error_iff.mp run
        have whole : members = front ++ culprit :: (back ++ m :: after) := by
          rw [split, within, List.append_assoc, List.cons_append]
        have earlier : culprit ∈ before := by simp [within]
        obtain ⟨inside, less⟩ := (mem_before_iff ordered split).mp earlier
        exact absurd ((offence_iff ordered whole passed).mpr refused) (first culprit inside less e')

theorem decode_obj_isOk_iff (ordered : (Json.keys members).Pairwise (· < ·)) :
    (∃ rules, decode (.obj members) = .ok rules) ↔
      ∀ m ∈ members, ∀ e, ¬ Offence members m e := by
  constructor
  · rintro ⟨rules, decoded⟩ m listed e
    rw [decode_obj] at decoded
    exact not_offence_of_passed ordered (List.append_nil members).symm decoded listed
  · intro faultless
    cases decoded : decode (.obj members) with
    | ok rules => exact ⟨rules, rfl⟩
    | error e =>
        obtain ⟨m, listed, offence, _⟩ := (decode_obj_eq_error_iff ordered).mp decoded
        exact absurd offence (faultless m listed e)

end Offences

/-- The members of a rule set: message rules and typed rules of one kind at most, each of which can
be read. -/
structure Readable (members : List Json.Member) : Prop where
  known : ∀ m ∈ members, m.1 = messageKey ∨ ∃ kind : RuleKind, m.1 = kind.keyword
  single : ∀ (a b : RuleKind) (first second : Json), (a.keyword, first) ∈ members →
    (b.keyword, second) ∈ members → a = b
  message : ∀ payload, (messageKey, payload) ∈ members →
    ∃ message, MessageRules.ofJson? payload = some message
  kind : ∀ (kind : RuleKind) (payload : Json), (kind.keyword, payload) ∈ members →
    ∃ t, TypedRules.decode kind payload = .ok t

theorem readable_iff {members : List Json.Member} :
    Readable members ↔ ∀ m ∈ members, ∀ e, ¬ Offence members m e := by
  constructor
  · intro readable m listed e offence
    cases offence with
    | unknown message kind =>
        rcases readable.known _ listed with same | ⟨k, same⟩
        · exact message same
        · exact kind k same
    | second earlier =>
        obtain ⟨less, payload, _, inside, _⟩ := earlier
        have same := readable.single _ _ _ _ inside listed
        exact absurd less (same ▸ lt_irrefl _)
    | message unread =>
        obtain ⟨message, read⟩ := readable.message _ listed
        cases unread.symm.trans read
    | kind only failed =>
        obtain ⟨t, decoded⟩ := readable.kind _ _ listed
        cases failed.symm.trans decoded
  · intro faultless
    have decodes (kind : RuleKind) (payload : Json) (listed : (kind.keyword, payload) ∈ members) :
        ∃ t, TypedRules.decode kind payload = .ok t := by
      cases decoded : TypedRules.decode kind payload with
      | ok t => exact ⟨t, rfl⟩
      | error e =>
          refine absurd (Offence.kind (fun first earlier => ?_) decoded) (faultless _ listed e)
          exact faultless _ listed _ (.second earlier)
    have notLess {a b : RuleKind} {first second : Json} (inside : (a.keyword, first) ∈ members)
        (listed : (b.keyword, second) ∈ members) : ¬ a.keyword < b.keyword := by
      intro less
      obtain ⟨t, decoded⟩ := decodes a first inside
      exact faultless _ listed _ (.second ⟨less, first, t, inside, decoded⟩)
    refine ⟨fun m listed => ?_, fun a b first second inside listed => ?_,
      fun payload listed => ?_, decodes⟩
    · rcases key_cases m.1 with message | kind | ⟨message, kind⟩
      · exact .inl message
      · exact .inr kind
      · exact absurd (Offence.unknown message kind) (faultless m listed _)
    · have same := le_antisymm (le_of_not_gt (notLess listed inside))
        (le_of_not_gt (notLess inside listed))
      exact RuleKind.keyword_injective same
    · cases read : MessageRules.ofJson? payload with
      | some message => exact ⟨message, rfl⟩
      | none => exact absurd (Offence.message read) (faultless _ listed _)

private theorem notAnObject_message : (malformedRules .notAnObject).message =
    "malformed extension `validate.rules`: expected an object" := by
  decide

private theorem twoKinds_message {first kind : RuleKind} :
    (malformedRules (.twoKinds first kind)).message =
    "malformed extension `validate.rules`: rule kinds `" ++ first.keyword ++ "` and `" ++
      kind.keyword ++ "` cannot be declared together" := by
  change "malformed extension " ++ quoted rulesKey ++ ": " ++ ("rule kinds " ++
    quoted first.keyword ++ " and " ++ quoted kind.keyword ++ " cannot be declared together") = _
  rw [← String.toList_inj, quoted, quoted, quoted]
  simp only [String.toList_append, List.append_assoc]
  rfl

/-- A value is decoded to rules if and only if it is an object whose members make up a rule set; of
any other object the first member that offends is reported. Which member it is, can be told from the
error: it gives the unknown name, the two kinds in the order in which they are read, or the value
that cannot be read, which may lie in a nested rule set. -/
theorem decode_reports_first_offence {j : Json} (ordered : j.IsOrdered) :
    ((∀ members, j ≠ .obj members) → decode j = .error (malformedRules .notAnObject)) ∧
    (∀ members, j = .obj members →
      ((∃ rules, decode j = .ok rules) ↔ Readable members) ∧
      ∀ e, decode j = .error e ↔ ∃ m ∈ members, Offence members m e ∧
        ∀ other ∈ members, other.1 < m.1 → ∀ e', ¬ Offence members other e') ∧
    (∀ kind payload e, TypedRules.decode kind payload = .error e ↔
      TypedRules.Fault kind payload e) ∧
    (malformedRules .notAnObject).message =
      "malformed extension `validate.rules`: expected an object" ∧
    (∀ first kind, (malformedRules (.twoKinds first kind)).message =
      "malformed extension `validate.rules`: rule kinds `" ++ first.keyword ++ "` and `" ++
        kind.keyword ++ "` cannot be declared together") ∧
    ∀ name, (SchemaError.unknownRuleKind name).message = "unknown rule type (" ++ name ++ ")" := by
  refine ⟨fun other => ?_, ?_, fun _ _ _ => TypedRules.decode_eq_error_iff, notAnObject_message,
    fun _ _ => twoKinds_message, fun _ => rfl⟩
  · cases j with
    | obj members => exact absurd rfl (other members)
    | _ => rfl
  · rintro members rfl
    exact ⟨(decode_obj_isOk_iff ordered).trans readable_iff.symm, fun e =>
      decode_obj_eq_error_iff ordered⟩

/-- What is written for a rule set with two kinds, the second of which cannot be read, and a key
that is none. -/
def tornMembers : List Json.Member := [
  ("bool", .obj [("const", .bool true)]),
  ("message", .obj [("required", .bool true)]),
  ("string", .null),
  ("text", .null)]

/-- Neither the rules of the kind nor those of the message can be read. -/
def blankMembers : List Json.Member :=
  [("int32", .bool true), ("message", .bool false)]

theorem tornMembers_refused :
    (Json.obj tornMembers).IsOrdered ∧
    decode (.obj tornMembers) = .error (malformedRules (.twoKinds .bool .string)) ∧
    (∃ m ∈ tornMembers, Offence tornMembers m (malformedRules (.twoKinds .bool .string))) ∧
    ¬ Readable tornMembers ∧
    (Json.obj blankMembers).IsOrdered ∧
    decode (.obj blankMembers) = .error (malformedRules (.unreadable "int32" (.bool true))) ∧
    (∃ m ∈ blankMembers,
      Offence blankMembers m (malformedRules (.unreadable "int32" (.bool true)))) ∧
    TypedRules.Fault (.numeric .int32) (.bool true)
      (malformedRules (.unreadable "int32" (.bool true))) := by
  have torn : (Json.obj tornMembers).IsOrdered := by decide
  have blank : (Json.obj blankMembers).IsOrdered := by decide
  have second : decode (.obj tornMembers) = .error (malformedRules (.twoKinds .bool .string)) := rfl
  have unread : decode (.obj blankMembers) =
      .error (malformedRules (.unreadable "int32" (.bool true))) := rfl
  obtain ⟨_, tornObject, _⟩ := decode_reports_first_offence torn
  obtain ⟨_, blankObject, faults, _⟩ := decode_reports_first_offence blank
  obtain ⟨accepted, refused⟩ := tornObject tornMembers rfl
  obtain ⟨_, blankRefused⟩ := blankObject blankMembers rfl
  obtain ⟨m, listed, offence, _⟩ := (refused _).mp second
  obtain ⟨n, inBlank, blankOffence, _⟩ := (blankRefused _).mp unread
  refine ⟨torn, second, ⟨m, listed, offence⟩, fun readable => ?_, blank, unread,
    ⟨n, inBlank, blankOffence⟩, (faults (.numeric .int32) (.bool true) _).mp rfl⟩
  obtain ⟨rules, decoded⟩ := accepted.mpr readable
  cases second.symm.trans decoded

end FieldRules

end ProtoRules
