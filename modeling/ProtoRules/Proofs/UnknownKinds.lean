import ProtoRules.Proofs.DecodedMembers

/-!
Unknown kinds of rules. A name that is no kind is reported as such from wherever it stands, since
the rule sets inside a rule set are looked at before anything else of it is read. A rule set inside
another is reached through a place, and one at any depth through a list of places.
-/

namespace ProtoRules

namespace Dictionary

variable {α : Type}

/-- Changes the value under a key. -/
def update (key : String) (f : α → α) : List (String × α) → List (String × α)
  | [] => []
  | (k, v) :: rest => if key = k then (k, f v) :: rest else (k, v) :: update key f rest

/-- Puts the value under a key under another one, where this one belongs. -/
def rename (old new : String) (pairs : List (String × α)) : List (String × α) :=
  match find? old pairs with
  | some value => insert new value (pairs.filter (·.1 ≠ old))
  | none => pairs

variable {key other : String} {f : α → α} {value : α} {pairs : List (String × α)}

private theorem find?_update_self : find? key (update key f pairs) = (find? key pairs).map f := by
  induction pairs with
  | nil => rfl
  | cons p rest ih =>
      obtain ⟨k, v⟩ := p
      rw [update, find?]
      split
      · rename_i same
        rw [find?, if_pos same]
        rfl
      · rename_i different
        rw [find?, if_neg different]
        exact ih

private theorem find?_update_of_ne (different : other ≠ key) :
    find? other (update key f pairs) = find? other pairs := by
  induction pairs with
  | nil => rfl
  | cons p rest ih =>
      obtain ⟨k, v⟩ := p
      rw [update, find?]
      split
      · rename_i same
        rw [find?, if_neg (same ▸ different), if_neg (same ▸ different)]
      · rw [find?, ih]

private theorem update_eq_of_find? (found : find? key pairs = some value) :
    ∃ before after, pairs = before ++ (key, value) :: after ∧
      ∀ f, update key f pairs = before ++ (key, f value) :: after := by
  induction pairs with
  | nil => cases found
  | cons p rest ih =>
      obtain ⟨k, v⟩ := p
      rw [find?] at found
      split at found
      · rename_i same
        cases found
        cases same
        exact ⟨[], rest, rfl, fun f => if_pos rfl⟩
      · rename_i different
        obtain ⟨before, after, rfl, updated⟩ := ih found
        refine ⟨(k, v) :: before, after, rfl, fun f => ?_⟩
        rw [update, if_neg different, updated, List.cons_append]

private theorem insert_eq_append (key : String) (value : α) (pairs : List (String × α)) :
    ∃ before after, insert key value pairs = before ++ (key, value) :: after ∧ before ⊆ pairs := by
  induction pairs with
  | nil => exact ⟨[], [], rfl, List.nil_subset _⟩
  | cons p rest ih =>
      obtain ⟨k, v⟩ := p
      rw [insert]
      split
      · exact ⟨[], rest, rfl, List.nil_subset _⟩
      · split
        · exact ⟨[], (k, v) :: rest, rfl, List.nil_subset _⟩
        · obtain ⟨before, after, inserted, inside⟩ := ih
          refine ⟨(k, v) :: before, after, ?_, List.cons_subset_cons _ inside⟩
          rw [inserted, List.cons_append]

end Dictionary

namespace Json

def item? (position : Nat) : Json → Option Json
  | arr items => items[position]?
  | _ => none

def update (key : String) (f : Json → Json) : Json → Json
  | obj members => obj (Dictionary.update key f members)
  | j => j

def updateItem (position : Nat) (f : Json → Json) : Json → Json
  | arr items => arr (items.modify position f)
  | j => j

def rename (old new : String) : Json → Json
  | obj members => obj (Dictionary.rename old new members)
  | j => j

variable {key other : String} {f : Json → Json} {j : Json}

private theorem get?_update_self : (j.update key f).get? key = (j.get? key).map f := by
  cases j with
  | obj members => exact Dictionary.find?_update_self
  | _ => rfl

private theorem get?_update_of_ne (different : other ≠ key) :
    (j.update key f).get? other = j.get? other := by
  cases j with
  | obj members => exact Dictionary.find?_update_of_ne different
  | _ => rfl

end Json

/-- Where a rule set stands inside another, whose rules are for lists or maps: in which alternative
and in which of its fields. -/
structure Place where
  kind : RuleKind
  alternative : Nat
  field : String
  nests : field ∈ TypedRules.nestedKeys kind

namespace Place

/-- The rule set at a place. Only objects and the list of alternatives are gone through. -/
def ruleSet? (p : Place) (j : Json) : Option Json := do
  let payload ← j.get? p.kind.keyword
  let alternatives ← payload.get? "rules"
  let alternative ← alternatives.item? p.alternative
  alternative.get? p.field

def update (p : Place) (f : Json → Json) (j : Json) : Json :=
  j.update p.kind.keyword
    (Json.update "rules" (Json.updateItem p.alternative (Json.update p.field f)))

end Place

/-- The rule set that a list of places leads to, from the outermost one on. -/
def ruleSetAt? : List Place → Json → Option Json
  | [], j => some j
  | p :: ps, j => (p.ruleSet? j).bind (ruleSetAt? ps)

def updateRuleSetAt : List Place → (Json → Json) → Json → Json
  | [], f => f
  | p :: ps, f => p.update (updateRuleSetAt ps f)

namespace TypedRules

private theorem nestedKeys_nodup (kind : RuleKind) : (nestedKeys kind).Nodup := by
  cases kind with
  | repeated => exact List.nodup_singleton _
  | map => decide
  | _ => exact List.nodup_nil

/-- Of the fields of an alternative that hold rule sets one is changed. -/
private theorem filterMap_get?_update {keys : List String} (nodup : keys.Nodup) {key : String}
    (known : key ∈ keys) {alternative set : Json} (found : alternative.get? key = some set) :
    ∃ before after, keys.filterMap alternative.get? = before ++ set :: after ∧
      ∀ f, keys.filterMap (alternative.update key f).get? = before ++ f set :: after := by
  obtain ⟨front, back, rfl⟩ := List.append_of_mem known
  rw [List.nodup_middle, List.nodup_cons, List.mem_append, not_or] at nodup
  obtain ⟨⟨notFront, notBack⟩, _⟩ := nodup
  have same {others : List String} (absent : key ∉ others) (f : Json → Json) :
      others.filterMap (alternative.update key f).get? = others.filterMap alternative.get? :=
    List.filterMap_congr fun other listed =>
      Json.get?_update_of_ne (ne_of_mem_of_not_mem listed absent)
  refine ⟨front.filterMap alternative.get?, back.filterMap alternative.get?, ?_, fun f => ?_⟩
  · simp only [List.filterMap_append, List.filterMap_cons, found]
  · have changed : (alternative.update key f).get? key = some (f set) := by
      rw [Json.get?_update_self, found, Option.map_some]
    simp only [List.filterMap_append, List.filterMap_cons, changed, same notFront, same notBack]

/-- Of the rule sets that are looked at, the one at the place is changed. -/
private theorem nestedPayloads_update {kind : RuleKind}
    {payload alternatives alternative set : Json}
    {position : Nat} {field : String} (nests : field ∈ nestedKeys kind)
    (rules : payload.get? "rules" = some alternatives)
    (item : alternatives.item? position = some alternative)
    (found : alternative.get? field = some set) :
    ∃ before after, nestedPayloads kind payload = before ++ set :: after ∧
      ∀ f, nestedPayloads kind
          (payload.update "rules" (Json.updateItem position (Json.update field f))) =
        before ++ f set :: after := by
  cases alternatives with
  | arr items =>
      obtain ⟨bound, here⟩ := List.getElem?_eq_some_iff.mp item
      obtain ⟨before, after, inside, changed⟩ :=
        filterMap_get?_update (nestedKeys_nodup kind) nests found
      have split : items = items.take position ++ alternative :: items.drop (position + 1) := by
        rw [← here, List.getElem_cons_drop, List.take_append_drop]
      refine ⟨(items.take position).flatMap (fun a => (nestedKeys kind).filterMap a.get?) ++ before,
        after ++ (items.drop (position + 1)).flatMap fun a => (nestedKeys kind).filterMap a.get?,
        ?_, fun f => ?_⟩
      · rw [nestedPayloads, rules]
        dsimp only
        conv_lhs => rw [split]
        rw [List.flatMap_append, List.flatMap_cons, inside]
        simp only [List.append_assoc, List.cons_append]
      · have listed : (payload.update "rules" (Json.updateItem position (Json.update field f))).get?
            "rules" = some (.arr (items.modify position (Json.update field f))) := by
          rw [Json.get?_update_self, rules]
          rfl
        rw [nestedPayloads, listed]
        dsimp only
        rw [List.modify_eq_take_cons_drop bound, here, List.flatMap_append, List.flatMap_cons,
          changed]
        simp only [List.append_assoc, List.cons_append]
  | _ => cases item

private theorem decoded_of_mem {kind : RuleKind} {payload j : Json} {t : TypedRules FieldRules}
    (decoded : decode kind payload = .ok t) (member : j ∈ nestedPayloads kind payload) :
    ∃ n, FieldRules.decode j = .ok n := by
  rw [decode, decodeWith, bind_eq_ok_iff] at decoded
  obtain ⟨_, looked, _⟩ := decoded
  exact discard_eq_ok_iff.mp (forM_eq_ok_iff.mp looked j member)

/-- The rule sets before a place can be decoded if all of them can; so the first complaint is about
what has been put there. -/
theorem decode_update_eq_error {kind : RuleKind} {payload alternatives alternative set : Json}
    {t : TypedRules FieldRules} (decoded : decode kind payload = .ok t) {position : Nat}
    {field : String} (nests : field ∈ nestedKeys kind)
    (rules : payload.get? "rules" = some alternatives)
    (item : alternatives.item? position = some alternative)
    (found : alternative.get? field = some set) {f : Json → Json} {e : SchemaError}
    (failed : FieldRules.decode (f set) = .error e) :
    decode kind (payload.update "rules" (Json.updateItem position (Json.update field f))) =
      .error e := by
  obtain ⟨before, after, listed, changed⟩ := nestedPayloads_update nests rules item found
  refine decode_eq_error_iff.mpr (.nested before (f set) after (changed f) ?_ failed)
  exact fun j earlier => decoded_of_mem decoded (listed ▸ List.mem_append_left _ earlier)

end TypedRules

namespace FieldRules

section Members

variable {members : List Json.Member} {rules : FieldRules}

private theorem added_of_mem {start : FieldRules}
    (added : members.foldlM (addMember decode) start = .ok rules)
    {m : Json.Member} (listed : m ∈ members) : ∃ r next, addMember decode r m = .ok next := by
  obtain ⟨before, after, rfl⟩ := List.append_of_mem listed
  rw [List.foldlM_append, bind_eq_ok_iff] at added
  obtain ⟨r, _, rest⟩ := added
  rw [List.foldlM_cons, bind_eq_ok_iff] at rest
  obtain ⟨next, here, _⟩ := rest
  exact ⟨r, next, here⟩

/-- The members beside the typed rules are message rules that can be read. -/
private theorem message_of_mem (decoded : decode (.obj members) = .ok rules) {kind : RuleKind}
    {payload : Json} (typed : (kind.keyword, payload) ∈ members) {m : Json.Member}
    (listed : m ∈ members) (other : m.1 ≠ kind.keyword) :
    ∃ content message, m = (messageKey, content) ∧ MessageRules.ofJson? content = some message := by
  rw [decode_obj] at decoded
  have gathered := gathered_of_foldlM decoded
  obtain ⟨r, next, added⟩ := added_of_mem decoded listed
  obtain ⟨key, content⟩ := m
  rcases key_cases key with rfl | ⟨k, rfl⟩ | ⟨message, unknown⟩
  · cases read : MessageRules.ofJson? content with
    | some message => exact ⟨content, message, rfl, read⟩
    | none => cases (addMember_unread read).symm.trans added
  · have same := (gathered.named k content listed).symm.trans (gathered.named kind payload typed)
    exact absurd (congrArg RuleKind.keyword (Option.some.inj same)) other
  · cases (addMember_unknown message unknown).symm.trans added

private theorem foldlM_messages (messages : ∀ m ∈ members, ∃ content message,
      m = (messageKey, content) ∧ MessageRules.ofJson? content = some message)
    (start : FieldRules) : ∃ next, members.foldlM (addMember decode) start = .ok next := by
  refine FaultsWithin.isOk (.foldlM (fun r m listed => ?_) start)
  obtain ⟨content, message, rfl, read⟩ := messages m listed
  exact .of_eq_ok (addMember_read read)

/-- A kind under another name is met after message rules at most. -/
private theorem decode_rename_eq_error {j : Json} (decoded : decode j = .ok rules) {kind : RuleKind}
    (named : (j.get? kind.keyword).isSome) {name : String} (message : name ≠ messageKey)
    (unknown : ∀ k : RuleKind, name ≠ k.keyword) :
    decode (j.rename kind.keyword name) = .error (.unknownRuleKind name) := by
  obtain ⟨payload, found⟩ := Option.isSome_iff_exists.mp named
  cases j with
  | obj members =>
      obtain ⟨before, after, inserted, inside⟩ :=
        Dictionary.insert_eq_append name payload (members.filter (·.1 ≠ kind.keyword))
      have messages : ∀ m ∈ before, ∃ content message, m = (messageKey, content) ∧
          MessageRules.ofJson? content = some message := by
        intro m earlier
        obtain ⟨listed, other⟩ := List.mem_filter.mp (inside earlier)
        exact message_of_mem decoded (Dictionary.mem_of_find? found) listed
          (of_decide_eq_true other)
      obtain ⟨r, passed⟩ := foldlM_messages messages {}
      have renamed : (Json.obj members).rename kind.keyword name =
          .obj (before ++ (name, payload) :: after) := by
        rw [Json.rename, Dictionary.rename]
        rw [Json.get?] at found
        rw [found]
        exact congrArg Json.obj inserted
      rw [renamed, decode_obj]
      exact foldlM_eq_error_iff.mpr
        ⟨before, _, after, r, rfl, passed, addMember_unknown message unknown⟩
  | _ => cases found

private theorem typed_of_get? {j payload : Json} (decoded : decode j = .ok rules) {kind : RuleKind}
    (found : j.get? kind.keyword = some payload) : ∃ t, TypedRules.decode kind payload = .ok t := by
  cases j with
  | obj members =>
      rw [decode_obj] at decoded
      obtain ⟨r, next, added⟩ := added_of_mem decoded (Dictionary.mem_of_find? found)
      rcases addMember_cases added with ⟨_, key, _⟩ | ⟨k, t, key, _, typed, _⟩
      · exact absurd key (keyword_ne_message kind)
      · cases RuleKind.keyword_injective key
        exact ⟨t, typed⟩
  | _ => cases found

/-- What is wrong with the typed rules is wrong with the rule set. -/
theorem decode_update_eq_error {j payload : Json} (decoded : decode j = .ok rules) {kind : RuleKind}
    (found : j.get? kind.keyword = some payload) {f : Json → Json} {e : SchemaError}
    (failed : TypedRules.decode kind (f payload) = .error e) :
    decode (j.update kind.keyword f) = .error e := by
  cases j with
  | obj members =>
      obtain ⟨before, after, rfl, updated⟩ := Dictionary.update_eq_of_find? found
      rw [decode_obj, List.foldlM_append, bind_eq_ok_iff] at decoded
      obtain ⟨r, passed, rest⟩ := decoded
      rw [List.foldlM_cons, bind_eq_ok_iff] at rest
      obtain ⟨next, added, _⟩ := rest
      rw [Json.update, updated, decode_obj]
      refine foldlM_eq_error_iff.mpr ⟨before, _, after, r, rfl, passed, ?_⟩
      rcases addMember_cases added with ⟨_, key, _⟩ | ⟨_, _, _, free, _, _⟩
      · exact absurd key (keyword_ne_message kind)
      · rw [addMember_first free, failed]
        rfl
  | _ => cases found

end Members

end FieldRules

namespace Place

variable {p : Place} {j set : Json} {rules : FieldRules}

theorem ruleSet?_eq_some_iff : p.ruleSet? j = some set ↔ ∃ payload alternatives alternative,
    j.get? p.kind.keyword = some payload ∧ payload.get? "rules" = some alternatives ∧
      alternatives.item? p.alternative = some alternative ∧
        alternative.get? p.field = some set := by
  simp only [ruleSet?, Option.bind_eq_bind, Option.bind_eq_some_iff]
  constructor
  · rintro ⟨payload, typed, alternatives, listed, alternative, item, found⟩
    exact ⟨payload, alternatives, alternative, typed, listed, item, found⟩
  · rintro ⟨payload, alternatives, alternative, typed, listed, item, found⟩
    exact ⟨payload, typed, alternatives, listed, alternative, item, found⟩

private theorem decode_ruleSet? (decoded : FieldRules.decode j = .ok rules)
    (inside : p.ruleSet? j = some set) : ∃ inner, FieldRules.decode set = .ok inner := by
  obtain ⟨payload, alternatives, alternative, typed, listed, item, found⟩ :=
    ruleSet?_eq_some_iff.mp inside
  obtain ⟨t, decodedTyped⟩ := FieldRules.typed_of_get? decoded typed
  obtain ⟨before, after, looked, _⟩ :=
    TypedRules.nestedPayloads_update p.nests listed item found
  exact TypedRules.decoded_of_mem decodedTyped (looked ▸ List.mem_append_cons_self)

theorem decode_update_eq_error (decoded : FieldRules.decode j = .ok rules)
    (inside : p.ruleSet? j = some set) {f : Json → Json} {e : SchemaError}
    (failed : FieldRules.decode (f set) = .error e) :
    FieldRules.decode (p.update f j) = .error e := by
  obtain ⟨payload, alternatives, alternative, typed, listed, item, found⟩ :=
    ruleSet?_eq_some_iff.mp inside
  obtain ⟨t, decodedTyped⟩ := FieldRules.typed_of_get? decoded typed
  apply FieldRules.decode_update_eq_error decoded typed
  exact TypedRules.decode_update_eq_error decodedTyped p.nests listed item found failed

end Place

/-- Of a rule set that is decoded, a rule set at any depth is given an unknown kind in place of its
own; then that name is what the whole is refused for. -/
theorem unknown_kind_surfaces {j set : Json} {rules : FieldRules} {places : List Place}
    (kind : RuleKind) {name : String} (decoded : FieldRules.decode j = .ok rules)
    (nested : ruleSetAt? places j = some set) (named : (set.get? kind.keyword).isSome)
    (message : name ≠ FieldRules.messageKey) (unknown : ∀ k : RuleKind, name ≠ k.keyword) :
    FieldRules.decode (updateRuleSetAt places (Json.rename kind.keyword name) j) =
      .error (.unknownRuleKind name) := by
  induction places generalizing j rules with
  | nil =>
      cases nested
      exact FieldRules.decode_rename_eq_error decoded named message unknown
  | cons p places ih =>
      obtain ⟨outer, inside, deeper⟩ := Option.bind_eq_some_iff.mp nested
      obtain ⟨inner, decodedOuter⟩ := Place.decode_ruleSet? decoded inside
      exact Place.decode_update_eq_error decoded inside (ih decodedOuter deeper)

/-- Rules for a map of lists of texts, told of in its second alternative. -/
def shelfMarks : Json := .obj [
  ("map", .obj [("rules", .arr [
    .obj [("keys", .obj [("int32", .obj [])])],
    .obj [
      ("error", .obj [("method", .str "badMark")]),
      ("values", .obj [("repeated", .obj [("rules", .arr [.obj [("items", .obj [
        ("message", .obj [("required", .bool true)]),
        ("string", .obj [])])]])])])]])]),
  ("message", .obj [("skip", .bool false)])]

def marksPlace : Place := ⟨.map, 1, "values", by decide⟩

def markPlace : Place := ⟨.repeated, 0, "items", by decide⟩

theorem shelfMarks_decimal_surfaces :
    (∃ rules, FieldRules.decode shelfMarks = .ok rules) ∧
    ruleSetAt? [marksPlace, markPlace] shelfMarks = some (.obj [
      ("message", .obj [("required", .bool true)]), ("string", .obj [])]) ∧
    updateRuleSetAt [marksPlace, markPlace] (Json.rename "string" "decimal") shelfMarks = .obj [
      ("map", .obj [("rules", .arr [
        .obj [("keys", .obj [("int32", .obj [])])],
        .obj [
          ("error", .obj [("method", .str "badMark")]),
          ("values", .obj [("repeated", .obj [("rules", .arr [.obj [("items", .obj [
            ("decimal", .obj []),
            ("message", .obj [("required", .bool true)])])]])])])]])]),
      ("message", .obj [("skip", .bool false)])] ∧
    FieldRules.decode
        (updateRuleSetAt [marksPlace, markPlace] (Json.rename "string" "decimal") shelfMarks) =
      .error (.unknownRuleKind "decimal") := by
  have decoded : ∃ rules, FieldRules.decode shelfMarks = .ok rules := ⟨_, rfl⟩
  obtain ⟨rules, known⟩ := decoded
  have unknown : ∀ k : RuleKind, "decimal" ≠ k.keyword := by
    intro k
    cases k with
    | numeric k => cases k <;> decide
    | _ => decide
  exact ⟨⟨rules, known⟩, rfl, rfl,
    unknown_kind_surfaces .string known rfl rfl (by decide) unknown⟩

/-- In an alternative that is written as an array the rules of the items are not looked at first,
and nothing is said of their kind. -/
example :
    let payload := Json.obj [("rules", .arr [
      .arr [.null, .null, .bool false, .obj [("decimal", .obj [])]]])]
    FieldRules.decode (.obj [("repeated", payload)]) =
      .error (malformedRules (.unreadable "repeated" payload)) := rfl

end ProtoRules
