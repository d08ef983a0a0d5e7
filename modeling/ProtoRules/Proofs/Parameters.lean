import ProtoRules.Plugin.Config
import ProtoRules.Proofs.Outcome
import ProtoRules.Proofs.Texts

/-!
Parameter texts. Which of them are options of a run, and which options; what is wrong with the
others; and that options come back from every text that gives them, in whichever order and with
whatever white space.
-/

namespace ProtoRules.Config

/-- A part gives a value to a key: they stand on the two sides of its first equals sign, possibly
with white space around them. -/
def Gives (part key value : String) : Prop :=
  ∃ before after, part = before ++ "=" ++ after ∧ '=' ∉ before.toList ∧
    Text.trim before = key ∧ Text.trim after = value

/-- A part that can be read. -/
structure WellFormed (part : String) : Prop where
  mark : '=' ∈ part.toList
  key : ∀ key value, Gives part key value → key ∈ ["lang", "format", "module"]
  flag : ∀ value, Gives part "format" value → value = "true" ∨ value = "false"

/-- What is wrong with a part. -/
inductive Offence (part : String) : ConfigError → Prop
  | mark (missing : '=' ∉ part.toList) : Offence part (.malformedParameter part)
  | key {key value : String} (gives : Gives part key value)
      (unknown : key ∉ ["lang", "format", "module"]) : Offence part (.unknownParameter key)
  | flag {value : String} (gives : Gives part "format" value)
      (other : value ≠ "true" ∧ value ≠ "false") : Offence part (.invalidFormat value)

/-- The last of the parts that give a value to a key gives it this one. -/
def LastValue (parts : List String) (key value : String) : Prop :=
  ∃ before part after, parts = before ++ part :: after ∧ Gives part key value ∧
    ∀ later ∈ after, ∀ other, ¬ Gives later key other

/-- Options as parts give them. Parts may leave out whether to format and the module, and an empty
module is none. -/
structure Described (parts : List String) (config : Config) : Prop where
  lang : LastValue parts "lang" config.lang
  named : config.lang ≠ ""
  format : config.format = true ↔ LastValue parts "format" "true"
  module : ∀ module, config.module = some module ↔ LastValue parts "module" module ∧ module ≠ ""

section Parts

variable {part key value : String}

def setting? (part : String) : Option (String × String) :=
  (Text.cut? '=' part).map (Prod.map Text.trim Text.trim)

theorem gives_iff : Gives part key value ↔ setting? part = some (key, value) := by
  simp only [setting?, Option.map_eq_some_iff, Prod.exists, Text.cut?_eq_some_iff, Prod.map_apply,
    Prod.mk.injEq]
  constructor
  · rintro ⟨before, after, split, free, rfl, rfl⟩
    exact ⟨before, after, ⟨split, free⟩, rfl, rfl⟩
  · rintro ⟨before, after, ⟨split, free⟩, rfl, rfl⟩
    exact ⟨before, after, split, free, rfl, rfl⟩

theorem Gives.unique {other another : String} (gives : Gives part key value)
    (also : Gives part other another) : other = key ∧ another = value := by
  have same := (gives_iff.mp also).symm.trans (gives_iff.mp gives)
  exact Prod.mk.inj (Option.some.inj same)

theorem exists_gives_iff : (∃ key value, Gives part key value) ↔ '=' ∈ part.toList := by
  constructor
  · rintro ⟨_, _, before, after, rfl, _⟩
    simp
  · intro mark
    obtain ⟨front, back, split, free⟩ := List.eq_append_cons_of_mem mark
    refine ⟨_, _, String.ofList front, String.ofList back, ?_, ?_, rfl, rfl⟩
    · apply String.toList_inj.mp
      simp [split]
    · rwa [String.toList_ofList]

theorem readFlag?_eq_some_iff {flag : Bool} :
    readFlag? value = some flag ↔ value = if flag then "true" else "false" := by
  unfold readFlag?
  split
  · cases flag <;> simp
  · cases flag <;> simp
  · rename_i notTrue notFalse
    cases flag
    · exact ⟨nofun, fun same => (notFalse same).elim⟩
    · exact ⟨nofun, fun same => (notTrue same).elim⟩

theorem readFlag?_eq_none_iff : readFlag? value = none ↔ value ≠ "true" ∧ value ≠ "false" := by
  simp only [Option.eq_none_iff_forall_ne_some, ne_eq, readFlag?_eq_some_iff, Bool.forall_bool,
    Bool.false_eq_true, if_false, if_true, and_comm]

theorem nonempty?_eq_some_iff {s : String} : nonempty? value = some s ↔ value = s ∧ s ≠ "" := by
  rw [nonempty?, Option.ite_none_left_eq_some, Option.some_inj, String.isEmpty_iff]
  constructor
  · rintro ⟨nonempty, rfl⟩
    exact ⟨rfl, nonempty⟩
  · rintro ⟨rfl, nonempty⟩
    exact ⟨nonempty, rfl⟩

theorem wellFormed_iff : WellFormed part ↔ ∀ e, ¬ Offence part e := by
  constructor
  · intro wellFormed e offence
    cases offence with
    | mark missing => exact missing wellFormed.mark
    | key gives unknown => exact unknown (wellFormed.key _ _ gives)
    | flag gives other => exact not_or.mpr other (wellFormed.flag _ gives)
  · intro faultless
    refine ⟨?_, fun key value gives => ?_, fun value gives => ?_⟩
    · by_contra missing
      exact faultless _ (.mark missing)
    · by_contra unknown
      exact faultless _ (.key gives unknown)
    · by_contra other
      exact faultless _ (.flag gives (not_or.mp other))

end Parts

section Add

variable {d : Draft} {part key value : String}

private theorem cut_of_gives (gives : Gives part key value) : ∃ before after,
    Text.cut? '=' part = some (before, after) ∧
      Text.trim before = key ∧ Text.trim after = value := by
  obtain ⟨before, after, rfl, free, trimmedKey, trimmedValue⟩ := gives
  exact ⟨before, after, Text.cut?_append free after, trimmedKey, trimmedValue⟩

private theorem add_of_lang (gives : Gives part "lang" value) :
    d.add part = .ok { d with lang := some value } := by
  obtain ⟨before, after, cut, key, rfl⟩ := cut_of_gives gives
  rw [Draft.add, cut]
  simp only [key]

private theorem add_of_flag (flag : Bool)
    (gives : Gives part "format" (if flag then "true" else "false")) :
    d.add part = .ok { d with format := flag } := by
  obtain ⟨before, after, cut, key, value⟩ := cut_of_gives gives
  rw [Draft.add, cut]
  simp only [key, readFlag?_eq_some_iff.mpr value]

private theorem add_of_module (gives : Gives part "module" value) :
    d.add part = .ok { d with module := nonempty? value } := by
  obtain ⟨before, after, cut, key, rfl⟩ := cut_of_gives gives
  rw [Draft.add, cut]
  simp only [key]

private theorem add_of_unknown (gives : Gives part key value)
    (unknown : key ∉ ["lang", "format", "module"]) :
    d.add part = .error (.unknownParameter key) := by
  obtain ⟨before, after, cut, rfl, rfl⟩ := cut_of_gives gives
  simp only [List.mem_cons, List.not_mem_nil, or_false, not_or] at unknown
  rw [Draft.add, cut]
  dsimp only
  split
  · rename_i lang
    exact absurd lang unknown.1
  · rename_i format
    exact absurd format unknown.2.1
  · rename_i module
    exact absurd module unknown.2.2
  · rfl

private theorem add_of_offence {e : ConfigError} (offence : Offence part e) :
    d.add part = .error e := by
  cases offence with
  | mark missing => rw [Draft.add, Text.cut?_eq_none missing]
  | key gives unknown => exact add_of_unknown gives unknown
  | flag gives other =>
      obtain ⟨before, after, cut, key, rfl⟩ := cut_of_gives gives
      rw [Draft.add, cut]
      simp only [key, readFlag?_eq_none_iff.mpr other]

/-- What becomes of a draft with a part. -/
inductive Added (d : Draft) (part : String) : Except ConfigError Draft → Prop
  | offence {e : ConfigError} (offence : Offence part e) : Added d part (.error e)
  | lang {value : String} (gives : Gives part "lang" value) :
      Added d part (.ok { d with lang := some value })
  | flag (flag : Bool) (gives : Gives part "format" (if flag then "true" else "false")) :
      Added d part (.ok { d with format := flag })
  | module {value : String} (gives : Gives part "module" value) :
      Added d part (.ok { d with module := nonempty? value })

theorem added (d : Draft) (part : String) : Added d part (d.add part) := by
  by_cases offending : ∃ e, Offence part e
  · obtain ⟨e, offence⟩ := offending
    exact add_of_offence offence ▸ .offence offence
  · have wellFormed : WellFormed part := wellFormed_iff.mpr (not_exists.mp offending)
    obtain ⟨key, value, gives⟩ := exists_gives_iff.mpr wellFormed.mark
    have known := wellFormed.key key value gives
    simp only [List.mem_cons, List.not_mem_nil, or_false] at known
    rcases known with rfl | rfl | rfl
    · exact add_of_lang gives ▸ .lang gives
    · rcases wellFormed.flag value gives with rfl | rfl
      · exact add_of_flag true gives ▸ .flag true gives
      · exact add_of_flag false gives ▸ .flag false gives
    · exact add_of_module gives ▸ .module gives

theorem add_eq_error_iff {e : ConfigError} : d.add part = .error e ↔ Offence part e := by
  constructor
  · intro refused
    have added := added d part
    rw [refused] at added
    cases added with
    | offence offence => exact offence
  · exact add_of_offence

end Add

section LastValue

variable {parts : List String} {part key value : String}

private theorem not_lastValue_nil : ¬ LastValue [] key value := by
  rintro ⟨before, part, after, split, _⟩
  exact absurd split (by simp)

/-- A further part has the last word if it gives a value to the key. -/
theorem lastValue_append_iff : LastValue (parts ++ [part]) key value ↔
    Gives part key value ∨ LastValue parts key value ∧ ∀ other, ¬ Gives part key other := by
  constructor
  · rintro ⟨before, giver, after, split, gives, silent⟩
    rcases List.eq_nil_or_concat' after with rfl | ⟨others, last, rfl⟩
    · obtain ⟨_, same⟩ := List.append_inj' split rfl
      cases same
      exact .inl gives
    · have regrouped : parts ++ [part] = (before ++ giver :: others) ++ [last] := by
        rw [split]
        simp
      obtain ⟨rfl, same⟩ := List.append_inj' regrouped rfl
      cases same
      refine .inr ⟨⟨before, giver, others, rfl, gives, fun later member => ?_⟩, ?_⟩
      · exact silent later (List.mem_append_left _ member)
      · exact silent part List.mem_concat_self
  · rintro (gives | ⟨⟨before, giver, after, rfl, gives, silent⟩, last⟩)
    · exact ⟨parts, part, [], rfl, gives, nofun⟩
    · refine ⟨before, giver, after ++ [part], by simp, gives, fun later member => ?_⟩
      rcases List.mem_append.mp member with earlier | here
      · exact silent later earlier
      · cases List.mem_singleton.mp here
        exact last

/-- What a part gives is the last value of its key, -/
private theorem lastValue_append_iff_of_gives (gives : Gives part key value) {other : String} :
    LastValue (parts ++ [part]) key other ↔ other = value := by
  rw [lastValue_append_iff]
  constructor
  · rintro (also | ⟨_, silent⟩)
    · exact (gives.unique also).2
    · exact absurd gives (silent value)
  · rintro rfl
    exact .inl gives

/-- and the other keys keep theirs. -/
private theorem lastValue_append_iff_of_ne (gives : Gives part key value) {other : String}
    (different : other ≠ key) {last : String} :
    LastValue (parts ++ [part]) other last ↔ LastValue parts other last := by
  have silent : ∀ given, ¬ Gives part other given := fun _ also => different (gives.unique also).1
  rw [lastValue_append_iff, or_iff_right (silent last), and_iff_left silent]

end LastValue

/-- A draft holds the last values that parts give. -/
structure Draft.Holds (d : Draft) (parts : List String) : Prop where
  lang : ∀ value, d.lang = some value ↔ LastValue parts "lang" value
  format : d.format = true ↔ LastValue parts "format" "true"
  module : ∀ value, d.module = some value ↔ LastValue parts "module" value ∧ value ≠ ""

section Drafts

variable {d d' : Draft} {part : String} {before after : List String}

private theorem Draft.holds_nil : Draft.Holds {} [] where
  lang _ := iff_of_false nofun not_lastValue_nil
  format := iff_of_false nofun not_lastValue_nil
  module _ := iff_of_false nofun fun last => not_lastValue_nil last.1

theorem Draft.Holds.add (holds : d.Holds before) (added : d.add part = .ok d') :
    d'.Holds (before ++ [part]) := by
  have step := Config.added d part
  rw [added] at step
  cases step with
  | lang gives =>
      refine ⟨fun value => ?_, ?_, fun value => ?_⟩
      · rw [lastValue_append_iff_of_gives gives, Option.some_inj, eq_comm]
      · rw [lastValue_append_iff_of_ne gives (by decide)]
        exact holds.format
      · rw [lastValue_append_iff_of_ne gives (by decide)]
        exact holds.module value
  | flag flag gives =>
      refine ⟨fun value => ?_, ?_, fun value => ?_⟩
      · rw [lastValue_append_iff_of_ne gives (by decide)]
        exact holds.lang value
      · rw [lastValue_append_iff_of_gives gives]
        cases flag <;> simp
      · rw [lastValue_append_iff_of_ne gives (by decide)]
        exact holds.module value
  | module gives =>
      refine ⟨fun value => ?_, ?_, fun value => ?_⟩
      · rw [lastValue_append_iff_of_ne gives (by decide)]
        exact holds.lang value
      · rw [lastValue_append_iff_of_ne gives (by decide)]
        exact holds.format
      · rw [lastValue_append_iff_of_gives gives, nonempty?_eq_some_iff, @eq_comm _ value]

theorem Draft.Holds.foldlM (holds : d.Holds before) (read : after.foldlM Draft.add d = .ok d') :
    d'.Holds (before ++ after) := by
  induction after generalizing before d with
  | nil =>
      cases read
      rwa [List.append_nil]
  | cons part after ih =>
      rw [List.foldlM_cons, bind_eq_ok_iff] at read
      obtain ⟨next, first, rest⟩ := read
      rw [List.append_cons]
      exact ih (holds.add first) rest

private theorem Draft.holds_of_read (read : after.foldlM Draft.add {} = .ok d) : d.Holds after :=
  Draft.holds_nil.foldlM read

private theorem wellFormed_iff_add : WellFormed part ↔ ∃ d', d.add part = .ok d' := by
  simp only [wellFormed_iff, ← add_eq_error_iff (d := d)]
  cases d.add part <;> simp

private theorem wellFormed_iff_foldlM :
    (∀ part ∈ after, WellFormed part) ↔ ∃ d', after.foldlM Draft.add d = .ok d' := by
  induction after generalizing d with
  | nil => simp
  | cons part after ih =>
      rw [List.forall_mem_cons, wellFormed_iff_add (d := d), List.foldlM_cons]
      simp only [bind_eq_ok_iff]
      constructor
      · rintro ⟨⟨next, first⟩, later⟩
        obtain ⟨d', rest⟩ := ih.mp later
        exact ⟨d', next, first, rest⟩
      · rintro ⟨d', next, first, rest⟩
        exact ⟨⟨next, first⟩, ih.mpr ⟨d', rest⟩⟩

theorem lang_bind_eq_some_iff {lang : String} :
    d.lang.bind nonempty? = some lang ↔ d.lang = some lang ∧ lang ≠ "" := by
  simp [Option.bind_eq_some_iff, nonempty?_eq_some_iff]

theorem finish_eq_ok_iff {config : Config} : d.finish = .ok config ↔
    (d.lang = some config.lang ∧ config.lang ≠ "") ∧ d.format = config.format ∧
      d.module = config.module := by
  rw [← lang_bind_eq_some_iff, Draft.finish]
  cases d.lang.bind nonempty? with
  | none => exact iff_of_false nofun fun found => nomatch found.1
  | some lang =>
      cases config
      simp

theorem finish_eq_error_iff {e : ConfigError} : d.finish = .error e ↔
    e = .missingLanguage ∧ ∀ lang, d.lang = some lang → lang = "" := by
  have unnamed : d.lang.bind nonempty? = none ↔ ∀ lang, d.lang = some lang → lang = "" := by
    simp [Option.eq_none_iff_forall_ne_some, lang_bind_eq_some_iff]
  rw [← unnamed, Draft.finish]
  cases d.lang.bind nonempty? with
  | none => simp [eq_comm]
  | some lang => exact iff_of_false nofun fun found => nomatch found.2

end Drafts

/-- Why parts are not options: their first offence, or that no language is left to generate for. -/
inductive Refusal (parts : List String) : ConfigError → Prop
  | part {before after : List String} {part : String} {e : ConfigError}
      (split : parts = before ++ part :: after) (earlier : ∀ part ∈ before, WellFormed part)
      (offence : Offence part e) : Refusal parts e
  | language (read : ∀ part ∈ parts, WellFormed part)
      (unnamed : ∀ lang, LastValue parts "lang" lang → lang = "") :
      Refusal parts .missingLanguage

section Parse

variable {text : String}

theorem parse_eq_ok_iff {config : Config} : parse text = .ok config ↔
    (∀ part ∈ parts text, WellFormed part) ∧ Described (parts text) config := by
  rw [parse, bind_eq_ok_iff]
  constructor
  · rintro ⟨d, read, finished⟩
    have holds := Draft.holds_of_read read
    obtain ⟨⟨lang, named⟩, format, module⟩ := finish_eq_ok_iff.mp finished
    exact ⟨wellFormed_iff_foldlM.mpr ⟨d, read⟩, (holds.lang _).mp lang, named,
      format ▸ holds.format, module ▸ holds.module⟩
  · rintro ⟨wellFormed, described⟩
    obtain ⟨d, read⟩ := wellFormed_iff_foldlM.mp wellFormed
    have holds := Draft.holds_of_read read
    refine ⟨d, read, finish_eq_ok_iff.mpr ⟨⟨(holds.lang _).mpr described.lang, described.named⟩,
      ?_, ?_⟩⟩
    · exact Bool.eq_iff_iff.mpr (holds.format.trans described.format.symm)
    · exact Option.ext fun value => (holds.module value).trans (described.module value).symm

theorem parse_eq_error_iff {e : ConfigError} :
    parse text = .error e ↔ Refusal (parts text) e := by
  rw [parse, bind_eq_error_iff]
  constructor
  · rintro (stopped | ⟨d, read, unfinished⟩)
    · obtain ⟨before, part, after, d, split, earlier, refused⟩ := foldlM_eq_error_iff.mp stopped
      exact .part split (wellFormed_iff_foldlM.mpr ⟨d, earlier⟩) (add_eq_error_iff.mp refused)
    · have holds := Draft.holds_of_read read
      obtain ⟨rfl, unnamed⟩ := finish_eq_error_iff.mp unfinished
      exact .language (wellFormed_iff_foldlM.mpr ⟨d, read⟩) fun lang last =>
        unnamed lang ((holds.lang lang).mpr last)
  · intro refusal
    cases refusal with
    | part split earlier offence =>
        obtain ⟨d, read⟩ := wellFormed_iff_foldlM.mp earlier
        exact .inl (foldlM_eq_error_iff.mpr
          ⟨_, _, _, d, split, read, add_eq_error_iff.mpr offence⟩)
    | language wellFormed unnamed =>
        obtain ⟨d, read⟩ := wellFormed_iff_foldlM.mp wellFormed
        have holds := Draft.holds_of_read read
        exact .inr ⟨d, read, finish_eq_error_iff.mpr
          ⟨rfl, fun lang given => unnamed lang ((holds.lang lang).mp given)⟩⟩

theorem exists_parse_eq_ok_iff : (∃ config, parse text = .ok config) ↔
    (∀ part ∈ parts text, WellFormed part) ∧
      ∃ lang, LastValue (parts text) "lang" lang ∧ lang ≠ "" := by
  constructor
  · rintro ⟨config, parsed⟩
    obtain ⟨wellFormed, described⟩ := parse_eq_ok_iff.mp parsed
    exact ⟨wellFormed, config.lang, described.lang, described.named⟩
  · rintro ⟨wellFormed, lang, last, named⟩
    cases outcome : parse text with
    | ok config => exact ⟨config, rfl⟩
    | error e =>
        cases parse_eq_error_iff.mp outcome with
        | @part before after offender _ split _ offence =>
            have member : offender ∈ parts text := by simp [split]
            exact absurd offence (wellFormed_iff.mp (wellFormed offender member) e)
        | language _ unnamed => exact absurd (unnamed lang last) named

end Parse

/-- A text that can be the value of a parameter as it stands. -/
structure Plain (s : String) : Prop where
  commaFree : ',' ∉ s.toList
  first : ∀ c ∈ s.toList.head?, Text.isBlank c = false
  last : ∀ c ∈ s.toList.getLast?, Text.isBlank c = false

theorem plain_iff {s : String} : Plain s ↔ ',' ∉ s.toList ∧
    s.toList.head?.all (!Text.isBlank ·) = true ∧
      s.toList.getLast?.all (!Text.isBlank ·) = true := by
  simp only [Option.all_eq_true, Bool.not_eq_true']
  exact ⟨fun plain => ⟨plain.commaFree, plain.first, plain.last⟩,
    fun ⟨commaFree, first, last⟩ => ⟨commaFree, first, last⟩⟩

instance : DecidablePred Plain := fun _ => decidable_of_iff' _ plain_iff

/-- The parameters that give options. -/
def parameters (config : Config) : List (String × String) :=
  [("lang", config.lang), ("format", if config.format then "true" else "false")] ++
    (config.module.map ("module", ·)).toList

/-- A piece of text gives a parameter, with white space around the key and the value. -/
def Spells (piece : String) (parameter : String × String) : Prop :=
  ∃ a b c d, (∀ blank ∈ [a, b, c, d], Text.isBlankText blank = true) ∧
    piece = a ++ parameter.1 ++ b ++ "=" ++ c ++ parameter.2 ++ d

/-- Pieces of text give parameters one after the other, with blank pieces anywhere in between. -/
inductive Layout : List String → List (String × String) → Prop
  | nil : Layout [] []
  | blank {piece : String} {pieces : List String} {params : List (String × String)}
      (blank : Text.isBlankText piece = true) (rest : Layout pieces params) :
      Layout (piece :: pieces) params
  | parameter {piece : String} {pieces : List String} {param : String × String}
      {params : List (String × String)} (spells : Spells piece param)
      (rest : Layout pieces params) : Layout (piece :: pieces) (param :: params)

section Layouts

private theorem parts_intercalate {pieces : List String} (nonempty : pieces ≠ [])
    (commaFree : ∀ piece ∈ pieces, ',' ∉ piece.toList) :
    parts (",".intercalate pieces) = (pieces.map Text.trim).filter (!·.isEmpty) := by
  rw [parts]
  exact congrArg _ (congrArg _ (Text.splitOn_intercalate nonempty commaFree))

theorem Plain.trim {s : String} (plain : Plain s) : Text.trim s = s := by
  have start : s.toList.dropWhile Text.isBlank = s.toList :=
    Text.dropWhile_append_of_stop (List.forall_mem_nil _) plain.first
  have ending : Text.dropTail Text.isBlank s.toList = s.toList :=
    Text.dropTail_eq_iff.mpr ⟨⟨[], (List.append_nil _).symm, nofun⟩, plain.last⟩
  rw [Text.trim, Text.trimChars, start, ending, String.ofList_toList]

private theorem trim_of_isBlankText {s : String} (blank : Text.isBlankText s = true) :
    Text.trim s = "" := by
  have nothing := Text.trim_append blank (rfl : Text.isBlankText "" = true) ""
  rwa [String.append_empty, String.append_empty] at nothing

private theorem not_mem_of_isBlankText {s : String} {c : Char} (blank : Text.isBlankText s = true)
    (mark : Text.isBlank c = false) : c ∉ s.toList := by
  intro member
  rw [List.all_eq_true.mp blank c member] at mark
  cases mark

private theorem plain_of_known :
    ∀ key ∈ ["lang", "format", "module"], Plain key ∧ '=' ∉ key.toList := by
  decide

private theorem Spells.commaFree {piece key value : String} (spells : Spells piece (key, value))
    (known : key ∈ ["lang", "format", "module"]) (plain : Plain value) : ',' ∉ piece.toList := by
  obtain ⟨a, b, c, d, blanks, rfl⟩ := spells
  have free : ∀ blank ∈ [a, b, c, d], ',' ∉ blank.toList := fun blank member =>
    not_mem_of_isBlankText (blanks blank member) (by decide)
  have keyFree := (plain_of_known key known).1.commaFree
  have valueFree := plain.commaFree
  simp only [List.forall_mem_cons, List.not_mem_nil, false_imp_iff, implies_true, and_true] at free
  simp [String.toList_append, free, keyFree, valueFree]

private theorem Spells.gives {piece key value : String} (spells : Spells piece (key, value))
    (known : key ∈ ["lang", "format", "module"]) (plain : Plain value) : Gives piece key value := by
  obtain ⟨a, b, c, d, blanks, rfl⟩ := spells
  simp only [List.forall_mem_cons, List.not_mem_nil, false_imp_iff, implies_true,
    and_true] at blanks
  obtain ⟨blankA, blankB, blankC, blankD⟩ := blanks
  obtain ⟨plainKey, unmarked⟩ := plain_of_known key known
  have freeA : '=' ∉ a.toList := not_mem_of_isBlankText blankA (by decide)
  have freeB : '=' ∉ b.toList := not_mem_of_isBlankText blankB (by decide)
  refine ⟨a ++ key ++ b, c ++ value ++ d, ?_, ?_, ?_, ?_⟩
  · simp only [String.append_assoc]
  · simp [String.toList_append, freeA, unmarked, freeB]
  · rw [Text.trim_append blankA blankB, plainKey.trim]
  · rw [Text.trim_append blankC blankD, plain.trim]

/-- Trimming a part does not change what it gives. -/
theorem Gives.trim {part key value : String} (gives : Gives part key value) :
    Gives (Text.trim part) key value := by
  obtain ⟨before, after, cut, rfl, rfl⟩ := cut_of_gives gives
  obtain ⟨first, last, found, sameKey, sameValue⟩ := Text.cut?_trim (by decide) cut
  rw [gives_iff, setting?, found, Option.map_some, Prod.map_apply, sameKey, sameValue]

theorem Gives.nonempty {part key value : String} (gives : Gives part key value) :
    (!part.isEmpty) = true := by
  obtain ⟨before, after, rfl, _⟩ := gives
  rw [Bool.not_eq_true', ← Bool.not_eq_true, String.isEmpty_iff]
  simp

/-- Parameters that are fit to be written. -/
def Writable (params : List (String × String)) : Prop :=
  ∀ param ∈ params, param.1 ∈ ["lang", "format", "module"] ∧ Plain param.2

variable {pieces : List String} {params : List (String × String)}

private theorem Layout.commaFree (layout : Layout pieces params) (writable : Writable params) :
    ∀ piece ∈ pieces, ',' ∉ piece.toList := by
  induction layout with
  | nil => exact nofun
  | blank blank _ ih =>
      exact List.forall_mem_cons.mpr ⟨not_mem_of_isBlankText blank (by decide), ih writable⟩
  | parameter spells _ ih =>
      obtain ⟨⟨known, plain⟩, rest⟩ := List.forall_mem_cons.mp writable
      exact List.forall_mem_cons.mpr ⟨spells.commaFree known plain, ih rest⟩

/-- What is left of the pieces gives the parameters and nothing else. -/
theorem Layout.settings (layout : Layout pieces params) (writable : Writable params) :
    ((pieces.map Text.trim).filter (!·.isEmpty)).map setting? = params.map some := by
  induction layout with
  | nil => rfl
  | blank blank _ ih =>
      rw [List.map_cons, trim_of_isBlankText blank, List.filter_cons_of_neg (by decide)]
      exact ih writable
  | parameter spells _ ih =>
      obtain ⟨⟨known, plain⟩, rest⟩ := List.forall_mem_cons.mp writable
      have gives := (spells.gives known plain).trim
      rw [List.map_cons, List.filter_cons, if_pos gives.nonempty, List.map_cons, List.map_cons,
        gives_iff.mp gives, ih rest]

variable {parts : List String} {key value : String}

private theorem mem_of_gives (settings : parts.map setting? = params.map some) {part : String}
    (member : part ∈ parts) (gives : Gives part key value) : (key, value) ∈ params := by
  have found : some (key, value) ∈ params.map some := by
    rw [← settings, ← gives_iff.mp gives]
    exact List.mem_map_of_mem member
  simpa using found

/-- Of parameters with different keys every value is the last of its key. -/
private theorem lastValue_iff_mem (settings : parts.map setting? = params.map some)
    (nodup : (params.map Prod.fst).Nodup) :
    LastValue parts key value ↔ (key, value) ∈ params := by
  constructor
  · rintro ⟨before, part, after, rfl, gives, _⟩
    exact mem_of_gives settings (by simp) gives
  · intro member
    obtain ⟨front, back, rfl⟩ := List.append_of_mem member
    rw [List.map_append, List.map_cons, List.map_eq_append_iff] at settings
    obtain ⟨before, rest, rfl, _, here⟩ := settings
    obtain ⟨part, after, rfl, gives, later⟩ := List.map_eq_cons_iff.mp here
    refine ⟨before, part, after, rfl, gives_iff.mpr gives, fun other among another given => ?_⟩
    have again : (key, another) ∈ back := mem_of_gives later among given
    rw [List.map_append, List.map_cons] at nodup
    have once := (List.nodup_cons.mp (List.nodup_append.mp nodup).2.1).1
    exact once (List.mem_map.mpr ⟨_, again, rfl⟩)

private theorem wellFormed_of_settings (settings : parts.map setting? = params.map some)
    (known : ∀ param ∈ params, param.1 ∈ ["lang", "format", "module"])
    (flags : ∀ value, ("format", value) ∈ params → value = "true" ∨ value = "false") :
    ∀ part ∈ parts, WellFormed part := by
  intro part member
  have found : setting? part ∈ params.map some := settings ▸ List.mem_map_of_mem member
  obtain ⟨⟨key, value⟩, _, gives⟩ := List.mem_map.mp found
  refine ⟨exists_gives_iff.mp ⟨key, value, gives_iff.mpr gives.symm⟩, ?_, ?_⟩
  · exact fun key value gives => known _ (mem_of_gives settings member gives)
  · exact fun value gives => flags value (mem_of_gives settings member gives)

variable {config : Config}

theorem mem_parameters_iff : (key, value) ∈ config.parameters ↔
    key = "lang" ∧ value = config.lang ∨
      key = "format" ∧ value = (if config.format then "true" else "false") ∨
      key = "module" ∧ config.module = some value := by
  simp [parameters, and_left_comm, @eq_comm _ "module"]

private theorem keys_parameters_nodup : (config.parameters.map Prod.fst).Nodup := by
  unfold parameters
  cases config.module <;> simp

private theorem parameters_writable (lang : Plain config.lang)
    (module : ∀ module, config.module = some module → Plain module) :
    Writable config.parameters := by
  rintro ⟨key, value⟩ member
  rcases mem_parameters_iff.mp member with ⟨rfl, rfl⟩ | ⟨rfl, rfl⟩ | ⟨rfl, set⟩
  · exact ⟨by simp, lang⟩
  · refine ⟨by simp, ?_⟩
    cases config.format <;> decide
  · exact ⟨by simp, module value set⟩

private theorem described_of_parameters (named : config.lang ≠ "")
    (module : ∀ module, config.module = some module → module ≠ "")
    (last : ∀ key value, LastValue parts key value ↔ (key, value) ∈ config.parameters) :
    Described parts config where
  lang := by simp [last, mem_parameters_iff]
  named := named
  format := by cases found : config.format <;> simp [last, mem_parameters_iff, found]
  module name := by simpa [last, mem_parameters_iff] using module name

/-- Options come back from any layout of their parameters, in any order. -/
private theorem parse_of_layout (named : config.lang ≠ "") (lang : Plain config.lang)
    (module : ∀ module, config.module = some module → Plain module ∧ module ≠ "")
    (order : params.Perm config.parameters) (layout : Layout pieces params) :
    parse (",".intercalate pieces) = .ok config := by
  have plain := parameters_writable lang fun name set => (module name set).1
  have writable : Writable params := fun param member => plain param (order.subset member)
  have settings := layout.settings writable
  have nonempty : pieces ≠ [] := by
    rintro rfl
    cases layout
    exact absurd order.symm.eq_nil (by simp [parameters])
  rw [← parts_intercalate nonempty (layout.commaFree writable)] at settings
  have nodup := (order.map Prod.fst).nodup_iff.mpr keys_parameters_nodup
  have last : ∀ key value, LastValue (Config.parts (",".intercalate pieces)) key value ↔
      (key, value) ∈ config.parameters := fun key value =>
    (lastValue_iff_mem settings nodup).trans order.mem_iff
  refine parse_eq_ok_iff.mpr ⟨wellFormed_of_settings settings ?_ ?_,
    described_of_parameters named (fun name set => (module name set).2) last⟩
  · exact fun param member => (writable param member).1
  · intro value member
    have given : value = if config.format then "true" else "false" := by
      simpa [mem_parameters_iff] using order.subset member
    cases format : config.format
    · exact .inr (by simpa [format] using given)
    · exact .inl (by simpa [format] using given)

end Layouts

/-- Parameter texts are read by their grammar: which parts a text has, when they are options and
which, what is wrong with them otherwise, and that every layout of the parameters of options is read
as these options, in any order. -/
theorem parameters_parse :
    (∀ text, ∃ pieces ≠ [], (∀ piece ∈ pieces, ',' ∉ piece.toList) ∧
      text = ",".intercalate pieces ∧
        parts text = (pieces.map Text.trim).filter (!·.isEmpty)) ∧
    (∀ text, (∃ config, parse text = .ok config) ↔ (∀ part ∈ parts text, WellFormed part) ∧
      ∃ lang, LastValue (parts text) "lang" lang ∧ lang ≠ "") ∧
    (∀ text config, parse text = .ok config ↔
      (∀ part ∈ parts text, WellFormed part) ∧ Described (parts text) config) ∧
    (∀ text e, parse text = .error e ↔ Refusal (parts text) e) ∧
    ∀ config params pieces, config.lang ≠ "" → Plain config.lang →
      (∀ module, config.module = some module → Plain module ∧ module ≠ "") →
      params.Perm config.parameters → Layout pieces params →
      parse (",".intercalate pieces) = .ok config := by
  refine ⟨fun text => ?_, fun _ => exists_parse_eq_ok_iff, fun _ _ => parse_eq_ok_iff,
    fun _ _ => parse_eq_error_iff, fun _ _ _ => parse_of_layout⟩
  obtain ⟨pieces, nonempty, commaFree, joined⟩ := Text.exists_eq_intercalate ',' text
  exact ⟨pieces, nonempty, commaFree, joined, joined ▸ parts_intercalate nonempty commaFree⟩

/-- The parameters of these options in another order, with white space and empty parts. -/
theorem scattered_parameters_parse :
    Plain "java" ∧ Plain "acme/" ∧
    [("module", "acme/"), ("format", "true"), ("lang", "java")].Perm
      (Config.parameters ⟨"java", true, some "acme/"⟩) ∧
    Layout ["", " module =\tacme/", "format= true ", "  ", "lang=java", ""]
      [("module", "acme/"), ("format", "true"), ("lang", "java")] ∧
    parse ", module =\tacme/,format= true ,  ,lang=java," =
      .ok ⟨"java", true, some "acme/"⟩ := by
  have module : Plain "acme/" ∧ "acme/" ≠ "" := by decide
  have order : [("module", "acme/"), ("format", "true"), ("lang", "java")].Perm
      (Config.parameters ⟨"java", true, some "acme/"⟩) := by decide
  have layout : Layout ["", " module =\tacme/", "format= true ", "  ", "lang=java", ""]
      [("module", "acme/"), ("format", "true"), ("lang", "java")] :=
    .blank (by decide) <| .parameter ⟨" ", " ", "\t", "", by decide, by decide⟩ <|
      .parameter ⟨"", "", " ", " ", by decide, by decide⟩ <| .blank (by decide) <|
      .parameter ⟨"", "", "", "", by decide, by decide⟩ <| .blank (by decide) .nil
  have joined : ", module =\tacme/,format= true ,  ,lang=java," =
      ",".intercalate ["", " module =\tacme/", "format= true ", "  ", "lang=java", ""] := by decide
  refine ⟨by decide, module.1, order, layout, ?_⟩
  rw [joined]
  exact parameters_parse.2.2.2.2 ⟨"java", true, some "acme/"⟩ _ _ (by decide) (by decide)
    (fun _ set => Option.some.inj set ▸ module) order layout

/-- A module that is set but empty does not come back: an empty value is no module. -/
theorem empty_module_lost :
    Plain "java" ∧ Plain "" ∧
    Layout ["lang=java", "format=false", "module="]
      (Config.parameters ⟨"java", false, some ""⟩) ∧
    parse (",".intercalate ["lang=java", "format=false", "module="]) =
      .ok ⟨"java", false, none⟩ ∧
    parse (",".intercalate ["lang=java", "format=false", "module="]) ≠
      .ok ⟨"java", false, some ""⟩ := by
  refine ⟨by decide, by decide, ?_, by decide, by decide⟩
  exact .parameter ⟨"", "", "", "", by decide, by decide⟩ <|
    .parameter ⟨"", "", "", "", by decide, by decide⟩ <|
    .parameter ⟨"", "", "", "", by decide, by decide⟩ .nil

end ProtoRules.Config
