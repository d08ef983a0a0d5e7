import ProtoRules.Emit.JavaClass
import ProtoRules.Proofs.BracketedChecks
import ProtoRules.Proofs.JavaClasses

/-!
Brackets of generated files. The class of a message, with its constants, its checks and the switches
over its oneofs, leaves no bracket open, and neither does the file around the classes.
-/

namespace ProtoRules

open Java (Plain)

structure OutputUnit.PlainNames (unit : OutputUnit) : Prop where
  file : unit.file.PlainNames
  name : Plain unit.name
  messages : ∀ m ∈ unit.messages, m.PlainNames

namespace Java

structure Case.Tidy (k : Case) : Prop where
  label : Plain k.label
  body : ∀ s ∈ k.body, s.Tidy

structure Switch.Tidy (s : Switch) : Prop where
  selector : Balanced s.selector
  cases : ∀ k ∈ s.cases, k.Tidy
  missing : ∀ error ∈ s.missing, Balanced error.text

structure ClassBody.Tidy (b : ClassBody) : Prop where
  constants : ∀ k ∈ b.constants, k.Tidy
  statements : ∀ s ∈ b.statements, s.Tidy
  switches : ∀ s ∈ b.switches, s.Tidy

private theorem balanced_atDepth {line : String} (balanced : Balanced line) (depth : Nat) :
    Balanced (atDepth depth line) :=
  Turns.prepend balanced (plain_tabs depth).balanced

theorem Case.Tidy.nests {k : Case} (tidy : k.Tidy) : Nests [] [] k.lines := by
  have label : Plain ("case " ++ k.label ++ ":") :=
    (Plain.append (by decide) tidy.label).append (by decide)
  have stop : Balanced (atDepth 2 "break;") := by decide
  have first := Nests.singleton (balanced_atDepth label.balanced 1)
  exact (first.append ((Statement.nests_linesAll tidy.body).indent 2)).append (.singleton stop)

theorem Switch.Tidy.nests {s : Switch} (tidy : s.Tidy) : Nests [] [] s.lines := by
  obtain ⟨selector, cases, missing⟩ := s
  have opening : Turns [] [')'] "switch (" := by decide
  have entered : Turns [')'] [] ")" := by decide
  have rest : Balanced "" := by decide
  have members : Nests [] [] (cases.flatMap Case.lines) :=
    .flatMap fun k member => (tidy.cases k member).nests
  have front := (Nests.singleton ((opening.extend tidy.selector).append entered).opens).append
    (members.closed _)
  cases missing with
  | none => exact (front.append (.nil _)).append (.singleton rest.closes)
  | some error =>
      have label : Balanced (atDepth 1 "default:") := by decide
      have raised : Balanced (callText requiredMethod [error, nullOperand]) := by
        refine balanced_callText (by decide) (List.forall_mem_cons.mpr ⟨?_, ?_⟩)
        · exact tidy.missing error rfl
        · exact List.forall_mem_singleton.mpr (by decide : Balanced nullOperand.text)
      have default := Nests.cons label (.singleton (balanced_atDepth raised 2))
      exact (front.append (default.closed _)).append (.singleton rest.closes)

theorem ClassBody.Tidy.nests {b : ClassBody} (tidy : b.Tidy) : Nests [] [] b.lines := by
  refine .append (Statement.nests_linesAll tidy.statements) (.flatMap fun s member => ?_)
  exact (tidy.switches s member).nests

private theorem nests_constantLines {ks : List Constant} (tidy : ∀ k ∈ ks, k.Tidy) :
    Nests [] [] (ks.map Constant.line) := by
  rw [List.map_eq_flatMap]
  exact .flatMap fun k member => .singleton (tidy k member).balanced_line

section Message

variable {files : List File} {message : Message}

namespace ClassBody

private theorem tidy_ofPlainFields (names : ∀ file ∈ files, file.PlainNames)
    (own : message.PlainNames)
    {fields : List Field} (members : ∀ field ∈ fields, field ∈ message.fields) :
    Gives (fun parts => (∀ k ∈ parts.1, k.Tidy) ∧ ∀ s ∈ parts.2, s.Tidy)
      (ofPlainFields (Schema.ofFiles files) message fields) := by
  induction fields with
  | nil => exact .ok ⟨fun k member => absurd member List.not_mem_nil,
      fun s member => absurd member List.not_mem_nil⟩
  | cons field fields ih =>
      obtain ⟨member, members⟩ := List.forall_mem_cons.mp members
      refine .bind fun c projected => .bind fun constants declared => ?_
      refine .bind fun statements written => .bind fun ⟨more, later⟩ rest => .ok ?_
      have tidy := Context.tidy_of_ofField own member
        (ProjectionError.render_eq_ok_iff.mp projected)
      obtain ⟨moreTidy, laterTidy⟩ := ih members _ rest
      have constantsTidy := (constantsPass_yields names).render tidy constants declared
      have statementsTidy := (statementsPass_yields names).render tidy statements written
      exact ⟨List.forall_mem_append.mpr ⟨constantsTidy, moreTidy⟩,
        List.forall_mem_append.mpr ⟨statementsTidy, laterTidy⟩⟩

variable {oneof : Oneof}

private theorem tidy_oneofConstants (names : ∀ file ∈ files, file.PlainNames)
    (own : message.PlainNames) (member : oneof ∈ message.oneofs) :
    GivesAll Constant.Tidy (oneofConstants (Schema.ofFiles files) message oneof) := by
  have members : GivesAll Constant.Tidy (concatM (fun field => do
      (constantsPass (Schema.ofFiles files)).render
        (← ProjectionError.render (Context.ofField message field)))
      (message.oneofFields oneof.name)) := by
    refine .concatM fun field inside => .bind fun c projected => ?_
    have inside := Message.mem_fields_of_mem_oneofFields inside
    have projected := ProjectionError.render_eq_ok_iff.mp projected
    exact (constantsPass_yields names).render (Context.tidy_of_ofField own inside projected)
  refine .bind fun rules read => ?_
  have read := SchemaError.render_eq_ok_iff.mp read
  cases raised : rules.bind OneofRules.error with
  | none =>
      refine .bind fun empty same => .bind fun ks written => .ok ?_
      cases same
      exact members ks written
  | some spec =>
      obtain ⟨rules, rfl, raised⟩ := Option.bind_eq_some_iff.mp raised
      refine .bind fun base readable => .bind fun single same => .bind fun ks written => .ok ?_
      cases same
      refine List.forall_mem_cons.mpr ⟨⟨(by decide : Balanced Constant.errorType), ?_, ?_⟩, ?_⟩
      · exact plain_oneofErrorName (own.oneofs oneof member)
      · refine balanced_errorCall ?_ (own.missing oneof member rules read spec raised)
        intro b same
        exact own.owner b (same ▸ SchemaError.render_eq_ok_iff.mp readable)
      · exact members ks written

private theorem tidy_oneofCase (names : ∀ file ∈ files, file.PlainNames) (own : message.PlainNames)
    {field : Field} (member : field ∈ message.fields) :
    Gives Case.Tidy (oneofCase (Schema.ofFiles files) message field) := by
  refine .bind fun c projected => .bind fun body written => .ok ?_
  have tidy := Context.tidy_of_ofField own member (ProjectionError.render_eq_ok_iff.mp projected)
  exact ⟨(own.fields field member).toUpper, (statementsPass_yields names).render tidy body written⟩

private theorem tidy_oneofSwitch (names : ∀ file ∈ files, file.PlainNames)
    (own : message.PlainNames) (member : oneof ∈ message.oneofs) :
    Gives Switch.Tidy (oneofSwitch (Schema.ofFiles files) message oneof) := by
  have plain := own.oneofs oneof member
  have front : Plain ("proto.get" ++ Text.pascal oneof.name) :=
    Plain.append (by decide) plain.pascal
  have call : Balanced "Case()" := by decide
  have selector := front.balanced.append call
  refine .bind fun cases written => .bind fun rules _ => ?_
  have casesTidy : ∀ k ∈ cases, k.Tidy := by
    have each : GivesAll Case.Tidy (concatM (fun field => do
        return [← oneofCase (Schema.ofFiles files) message field])
        (message.oneofFields oneof.name)) := by
      refine .concatM fun field inside => .bind fun k one => .ok ?_
      have inside := Message.mem_fields_of_mem_oneofFields inside
      exact List.forall_mem_singleton.mpr (tidy_oneofCase names own inside k one)
    exact each cases written
  dsimp only
  split
  · exact .error _
  · refine .ok ⟨selector, casesTidy, fun error same => ?_⟩
    rw [← Option.some.inj same]
    exact (plain_oneofErrorName plain).balanced
  · refine .ok ⟨selector, casesTidy, fun error missing => ?_⟩
    cases missing

private theorem tidy_ofOneofs (names : ∀ file ∈ files, file.PlainNames) (own : message.PlainNames)
    {oneofs : List Oneof} (members : ∀ oneof ∈ oneofs, oneof ∈ message.oneofs) :
    Gives (fun parts => (∀ k ∈ parts.1, k.Tidy) ∧ ∀ s ∈ parts.2, s.Tidy)
      (ofOneofs (Schema.ofFiles files) message oneofs) := by
  induction oneofs with
  | nil => exact .ok ⟨fun k member => absurd member List.not_mem_nil,
      fun s member => absurd member List.not_mem_nil⟩
  | cons oneof oneofs ih =>
      obtain ⟨member, members⟩ := List.forall_mem_cons.mp members
      refine .bind fun constants declared => .bind fun switch written => ?_
      refine .bind fun ⟨more, later⟩ rest => .ok ?_
      obtain ⟨moreTidy, laterTidy⟩ := ih members _ rest
      have constantsTidy := tidy_oneofConstants names own member constants declared
      have switchTidy := tidy_oneofSwitch names own member switch written
      exact ⟨List.forall_mem_append.mpr ⟨constantsTidy, moreTidy⟩,
        List.forall_mem_cons.mpr ⟨switchTidy, laterTidy⟩⟩

private theorem tidy_ofMessage (names : ∀ file ∈ files, file.PlainNames)
    (own : message.PlainNames) :
    Gives ClassBody.Tidy (ofMessage (Schema.ofFiles files) message) := by
  refine .bind fun ⟨plain, statements⟩ first => .bind fun ⟨members, switches⟩ second => .ok ?_
  obtain ⟨plainTidy, statementsTidy⟩ := tidy_ofPlainFields names own
    (fun field inside => Message.mem_fields_of_mem_plainFields inside) _ first
  obtain ⟨membersTidy, switchesTidy⟩ := tidy_ofOneofs names own (fun _ member => member) _ second
  exact ⟨List.forall_mem_append.mpr ⟨plainTidy, membersTidy⟩, statementsTidy, switchesTidy⟩

end ClassBody

end Message

section Unit

variable {files : List File} {file : File} {message : Message} {unit : OutputUnit}

private theorem plain_simpleName (plain : Plain message.name) : Plain message.simpleName :=
  plain.lastPiece '.'

/-- The name that a message is found by is made of names of its file. -/
private theorem plain_messageClass (names : ∀ file ∈ files, file.PlainNames) (own : file.PlainNames)
    (plain : Plain message.name) :
    Gives Plain (qualified (Schema.ofFiles files) (file.fullName message.name)) :=
  fun _ found => plain_qualified names (own.fullName plain).undot found

private theorem nests_disabledLines (plain : Plain message.simpleName) :
    Nests [] [] (disabledLines message) := by
  have note : Plain ("// Validate is disabled for " ++ message.simpleName) :=
    Plain.append (by decide) plain
  have stop : Balanced "return;" := by decide
  exact .cons note.balanced (.singleton stop)

/-- The frame of a class with constants and one method. -/
private theorem nests_classFrame {header constants body : Lines} {method : String}
    (opened : Nests [] ['}'] header) (entered : Turns ['}'] ['}', '}'] method)
    (first : Nests [] [] constants) (second : Nests [] [] body) :
    Nests [] [] (header ++ Lines.indent 1 constants ++ [""] ++ [method] ++
      Lines.indent 2 body ++ [atDepth 1 (closes ""), closes ""]) := by
  have blank : Nests ['}'] ['}'] [""] := by decide
  have closing : Nests ['}', '}'] [] [atDepth 1 (closes ""), closes ""] := by decide
  have front := (opened.append ((first.indent 1).closed _)).append blank
  exact ((front.append (.singleton entered)).append ((second.indent 2).closed _)).append closing

private theorem nests_validatorLines (names : ∀ file ∈ files, file.PlainNames)
    (own : file.PlainNames) (member : message.PlainNames) :
    Gives (Nests [] []) (validatorLines (Schema.ofFiles files) file message) := by
  have simple := plain_simpleName member.name
  refine .bind fun type found => .bind fun disabled _ => ?_
  have typed := (plain_messageClass names own member.name type found).balanced
  have header : Nests [] ['}'] ["/**",
      " * Validates " ++ braced ("@code " ++ message.simpleName) ++ " protobuf objects.",
      " */",
      opens ("public static class " ++ validatorClass message ++ " implements " ++ runtime ++
        ".ValidatorImpl<" ++ type ++ ">")] := by
    have validates : Balanced " * Validates " := by decide
    have code : Balanced "@code " := by decide
    have objects : Balanced " protobuf objects." := by decide
    have front : Balanced "public static class " := by decide
    have inherits : Balanced " implements " := by decide
    have library : Balanced runtime := by decide
    have generic : Balanced ".ValidatorImpl<" := by decide
    have ended : Balanced ">" := by decide
    have named := front.append (plain_validatorClass member.name).balanced
    have implemented := ((named.append inherits).append library).append generic
    refine .cons (by decide : Balanced "/**") ?_
    have linked := balanced_braced (code.append simple.balanced)
    refine .cons ((validates.append linked).append objects) ?_
    refine .cons (by decide : Balanced " */") (.singleton ?_)
    exact ((implemented.append typed).append ended).opens
  have method : Turns ['}'] ['}', '}'] (atDepth 1 (opens ("public void assertValid(" ++
      type ++ " proto, " ++ runtime ++ ".ValidatorIndex index) throws RuntimeException"))) := by
    have opening : Turns [] [')'] "public void assertValid(" := by decide
    have value : Balanced " proto, " := by decide
    have library : Balanced runtime := by decide
    have ended : Turns [')'] [] ".ValidatorIndex index) throws RuntimeException" := by decide
    have parameters := ((opening.extend typed).extend value).extend library
    exact ((parameters.append ended).opens.prepend (plain_tabs 1).balanced).frame ['}']
  refine .ite (fun _ => .ok ?_) fun _ => .bind fun parts written => .ok ?_
  · exact nests_classFrame header method (.nil []) (nests_disabledLines simple)
  · have tidy := ClassBody.tidy_ofMessage names member parts written
    exact nests_classFrame header method (nests_constantLines tidy.constants) tidy.nests

private theorem balanced_selectionLine (names : ∀ file ∈ files, file.PlainNames)
    (own : file.PlainNames) (plain : Plain message.name) :
    Gives Balanced (selectionLine (Schema.ofFiles files) file message) := by
  refine .bind fun type found => .ok (balanced_atDepth ?_ 2)
  have typed := plain_messageClass names own plain type found
  have opening : Turns [] [')', ')'] "if (clazz.equals(" := by decide
  have chosen : Turns [')', ')'] [] ".class)) return new " := by decide
  have call : Balanced "();" := by decide
  have front := (opening.extend typed.balanced).append chosen
  exact (front.extend (plain_validatorClass plain).balanced).extend call

private theorem nests_packageLines (plain : Plain (package file)) :
    Nests [] [] (packageLines file) := by
  unfold packageLines
  split
  · exact .nil []
  · have line : Plain ("package " ++ package file ++ ";") :=
      (Plain.append (by decide) plain).append (by decide)
    exact .cons line.balanced (.singleton (by decide : Balanced ""))

private theorem nests_concatM {α : Type} {xs : List α} {f : α → Rendered Lines}
    (each : ∀ x ∈ xs, Gives (Nests [] []) (f x)) : Gives (Nests [] []) (concatM f xs) :=
  .concat (.nil []) Nests.append each

private theorem nests_unitLines (names : ∀ file ∈ files, file.PlainNames)
    (plain : unit.PlainNames) :
    Gives (Nests [] []) (unitLines (Schema.ofFiles files) unit) := by
  obtain ⟨own, named, members⟩ := plain
  refine .bind fun selection chosen => .bind fun classes written => .ok ?_
  have selection : Nests [] [] selection := by
    refine nests_concatM (fun m member => ?_) _ chosen
    refine .bind fun line one => .ok (.singleton ?_)
    exact balanced_selectionLine names own (members m member).name line one
  have classes : Nests [] [] classes := by
    refine nests_concatM (fun m member => ?_) _ written
    refine .bind fun lines one => .ok (.cons (by decide : Balanced "") ?_)
    exact (nests_validatorLines names own (members m member) lines one).indent 1
  have source : Plain ("// source: " ++ unit.file.name) := Plain.append (by decide) own.name
  have generated : Balanced "// Code generated by protovet. DO NOT EDIT." := by decide
  have head : Nests [] [] ["// Code generated by protovet. DO NOT EDIT.",
      "// source: " ++ unit.file.name, ""] :=
    .cons generated (.cons source.balanced (.singleton (by decide : Balanced "")))
  have opened : Nests [] ['}', '}'] ["@SuppressWarnings(\"all\")",
      opens ("public class " ++ unit.name),
      atDepth 1 (opens ("public static " ++ runtime ++
        ".ValidatorImpl validatorFor(Class clazz)"))] := by
    have front : Plain ("public class " ++ unit.name) := Plain.append (by decide) named
    have method : Turns ['}'] ['}', '}'] (atDepth 1 (opens ("public static " ++ runtime ++
        ".ValidatorImpl validatorFor(Class clazz)"))) := by decide
    refine .cons (by decide : Balanced "@SuppressWarnings(\"all\")") ?_
    exact .cons front.balanced.opens (.singleton method)
  have returned : Nests ['}', '}'] ['}'] [atDepth 2 "return null;", atDepth 1 (closes "")] := by
    decide
  have last : Nests ['}'] [] [closes ""] := by decide
  have front := (head.append (nests_packageLines own.ofPackage)).append opened
  have chosen := (front.append (selection.closed _)).append returned
  exact (chosen.append (classes.closed _)).append last

private theorem units_plainNames {units : List OutputUnit} (names : file.PlainNames)
    (split : Java.units file = .ok units) : ∀ unit ∈ units, unit.PlainNames := by
  have ofValidated {messages kept : List Message} {owner : String} (plain : Plain owner)
      (inside : ∀ m ∈ messages, m ∈ file.messages)
      (read : OutputUnit.validated messages = .ok kept) :
      (validatorFile file kept owner).PlainNames := by
    refine ⟨names, plain.append (by decide), fun m member => names.messages m (inside m ?_)⟩
    exact ((OutputUnit.mem_validated_iff read).mp member).1
  unfold Java.units at split
  split at split
  · intro unit member
    obtain ⟨top, declared, kept, read, rfl⟩ := topLevelUnits_mem split unit member
    have top := (names.messages top (List.mem_filter.mp declared).1).name
    exact ofValidated top (fun m related => (List.mem_filter.mp related).1) read
  · simp only [bind_eq_ok_iff, pure_eq_ok_iff] at split
    obtain ⟨kept, read, rfl⟩ := split
    exact List.forall_mem_singleton.mpr
      (ofValidated names.ofOuterClass (fun _ member => member) read)

end Unit

/-- Where the names of all files are plain, a unit with plain names that can be written has its
brackets in order: outside literals parentheses, braces and square brackets are closed in the
order of their nesting, and every literal ends on its line, whatever values, patterns and messages
the rules hold. Each unit of a file of these has plain names. -/
theorem renderUnit_wellBracketed {files : List File} (names : ∀ file ∈ files, file.PlainNames) :
    (∀ (unit : OutputUnit) (text : String), unit.PlainNames →
      renderUnit (Schema.ofFiles files) unit = .ok text → WellBracketed text) ∧
    ∀ file ∈ files, ∀ units, Java.units file = .ok units → ∀ unit ∈ units,
      unit.PlainNames ∧
        ∀ text, renderUnit (Schema.ofFiles files) unit = .ok text → WellBracketed text := by
  have rendered (unit : OutputUnit) (text : String) (plain : unit.PlainNames)
      (rendered : renderUnit (Schema.ofFiles files) unit = .ok text) : WellBracketed text := by
    obtain ⟨lines, written, rfl⟩ := map_eq_ok_iff.mp rendered
    exact wellBracketed_of_nests (nests_unitLines names plain lines written)
  refine ⟨rendered, fun file inside units split unit member => ?_⟩
  have plain := units_plainNames (names file inside) split unit member
  exact ⟨plain, fun text => rendered unit text plain⟩

/-! A message whose rules hold a pattern and a message that open brackets and literals. -/

def openNote : Field where
  name := "note"
  shape := .single (.scalar .string)
  extensions := Extensions.insert {} rulesKey (.obj [("string", .obj [("rules", .arr [.obj [
    ("pattern", .str "[(\"\x7b"),
    ("error", .obj [("method", .str "badNote"), ("message", .str "\\\"(\n[\x7b")])]])])])

def noteBook : File where
  name := "notes.proto"
  package := "acme"
  messages := [{ name := "Note", fields := [openNote] }]

theorem noteBook_wellBracketed : (∀ file ∈ [noteBook], file.PlainNames) ∧
    ∃ unit, Java.units noteBook = .ok [unit] ∧
      ∃ text, renderUnit (Schema.ofFiles [noteBook]) unit = .ok text ∧ WellBracketed text := by
  have methods : ∀ own ∈ (openNote.rules.toOption.join.map FieldRules.errors).getD [],
      ∀ spec ∈ own, Plain spec.method := by decide +kernel
  have names : ∀ file ∈ [noteBook], file.PlainNames := by
    refine List.forall_mem_singleton.mpr ⟨by decide, by decide, nofun, nofun, nofun, ?_⟩
    refine List.forall_mem_singleton.mpr ⟨by decide, ?_, nofun, ?_, ?_, nofun⟩
    · exact List.forall_mem_singleton.mpr (by decide : Plain "note")
    · intro base read
      cases read
    · refine List.forall_mem_singleton.mpr fun rules read spec member => ?_
      exact methods (some spec) (by rw [read]; exact member) spec rfl
  have written : (renderUnit (Schema.ofFiles [noteBook])
      (validatorFile noteBook noteBook.messages "Notes")).toOption.isSome = true := by
    decide +kernel
  obtain ⟨text, written⟩ := Option.isSome_iff_exists.mp written
  have written := toOption_eq_some_iff.mp written
  have owner : outerClass noteBook = "Notes" := by decide +kernel
  have split : Java.units noteBook = .ok [validatorFile noteBook noteBook.messages "Notes"] := by
    rw [← owner]
    rfl
  obtain ⟨_, whole⟩ := renderUnit_wellBracketed names
  obtain ⟨_, ordered⟩ := whole noteBook (List.mem_singleton_self _) _ split _
    (List.mem_singleton_self _)
  exact ⟨names, _, split, text, written, ordered text written⟩

end Java

end ProtoRules
