import ProtoRules.Plugin.Generate
import ProtoRules.Proofs.CheckedContexts
import ProtoRules.Proofs.Outlines

/-!
Runs that end alike. Two messages are interchangeable if they are checked alike and, once they pass
the check, are written alike; requests with interchangeable messages give the same artifacts or the
same fault.
-/

namespace ProtoRules

/-- Two outcomes that are the same fault or are related results. -/
inductive SameOutcome {ε α β : Type} (R : α → β → Prop) : Except ε α → Except ε β → Prop
  | ok {a : α} {b : β} (related : R a b) : SameOutcome R (.ok a) (.ok b)
  | error (e : ε) : SameOutcome R (.error e) (.error e)

namespace SameOutcome

variable {ε α β γ δ : Type} {R : α → β → Prop} {x : Except ε α} {y : Except ε β}

private theorem of_eq {x y : Except ε α} (same : x = y) : SameOutcome Eq x y := by
  subst same
  cases x with
  | ok a => exact .ok rfl
  | error e => exact .error e

theorem bind {S : γ → δ → Prop} {f : α → Except ε γ} {g : β → Except ε δ}
    (first : SameOutcome R x y) (next : ∀ a b, R a b → SameOutcome S (f a) (g b)) :
    SameOutcome S (x >>= f) (y >>= g) := by
  cases first with
  | ok related => exact next _ _ related
  | error e => exact .error e

theorem bind_eq {f : α → Except ε γ} {g : β → Except ε γ} (first : SameOutcome R x y)
    (next : ∀ a b, R a b → f a = g b) : (x >>= f) = (y >>= g) := by
  cases first with
  | ok related => exact next _ _ related
  | error e => rfl

theorem mono {S : α → β → Prop} (same : SameOutcome R x y) (weaker : ∀ a b, R a b → S a b) :
    SameOutcome S x y := by
  cases same with
  | ok related => exact .ok (weaker _ _ related)
  | error e => exact .error e

theorem render {x : Except SchemaError α} {y : Except SchemaError β} (same : SameOutcome R x y) :
    SameOutcome R (SchemaError.render x) (SchemaError.render y) := by
  cases same with
  | ok related => exact .ok related
  | error e => exact .error _

theorem liftRender {x : Rendered α} {y : Rendered β} (same : SameOutcome R x y) :
    SameOutcome R (Generate.liftRender x) (Generate.liftRender y) := by
  cases same with
  | ok related => exact .ok related
  | error e => exact .error _

end SameOutcome

theorem bind_congr_ok {ε α β : Type} {x : Except ε α} {f g : α → Except ε β}
    (same : ∀ a, x = .ok a → f a = g a) : (x >>= f) = (x >>= g) := by
  cases x with
  | ok a => exact same a rfl
  | error e => rfl

private theorem concatM_congr {α β γ : Type} {R : α → β → Prop} {f : α → Rendered (List γ)}
    {g : β → Rendered (List γ)} {as : List α} {bs : List β} (related : List.Forall₂ R as bs)
    (same : ∀ a b, R a b → f a = g b) : concatM f as = concatM g bs := by
  induction related with
  | nil => rfl
  | cons first _ ih => rw [concatM, concatM, same _ _ first, ih]

/-- Messages that are written alike in both languages, each in its own schema. -/
structure Message.WrittenAlike (s t : Schema) (m n : Message) : Prop where
  name : m.name = n.name
  isIgnored : m.isIgnored = n.isIgnored
  isDisabled : m.isDisabled = n.isDisabled
  classBody : m.isDisabled = .ok false → Java.ClassBody.ofMessage s m = Java.ClassBody.ofMessage t n
  methodBody : ∀ package, Rust.bodyTokens s package m = Rust.bodyTokens t package n

/-- Messages that are checked alike and, if they are accepted, written alike. -/
structure Message.Interchangeable (s t : Schema) (m n : Message) : Prop where
  name : m.name = n.name
  declarations : checkDeclarations s m = checkDeclarations t n
  written : checkDeclarations s m = .ok () → m.WrittenAlike s t n

structure File.Interchangeable (s t : Schema) (f g : File) : Prop extends f.SameOutline g where
  interchangeable : List.Forall₂ (Message.Interchangeable s t) f.messages g.messages

structure OutputUnit.WrittenAlike (s t : Schema) (u v : OutputUnit) : Prop where
  file : u.file.SameOutline v.file
  messages : List.Forall₂ (Message.WrittenAlike s t) u.messages v.messages
  name : u.name = v.name
  path : u.path = v.path

variable {s t : Schema} {f g : File} {m n : Message} {ms ns : List Message}

private theorem checkFile_congr (same : f.Interchangeable s t g) :
    checkFile s f = checkFile t g := by
  rw [checkFile, checkFile, same.name]
  refine forM_congr same.interchangeable fun m n related => ?_
  rw [checkMessage, checkMessage, same.fullName, related.name, related.declarations]

private theorem writtenAlike_of_checkFile (same : f.Interchangeable s t g)
    (accepted : checkFile s f = .ok ()) :
    List.Forall₂ (Message.WrittenAlike s t) f.messages g.messages := by
  have passed := checkFile_eq_ok_iff.mp accepted
  refine List.forall₂_iff_get.mpr ⟨same.interchangeable.length_eq, fun i left right => ?_⟩
  exact (same.interchangeable.get left right).written (passed _ (List.get_mem _ _))

private theorem checkFlags_congr (alike : List.Forall₂ (Message.WrittenAlike s t) ms ns) :
    Generate.checkFlags ms = Generate.checkFlags ns := by
  induction alike with
  | nil => rfl
  | cons first _ ih => rw [Generate.checkFlags, Generate.checkFlags, first.isDisabled, ih]

private theorem validated_congr (alike : List.Forall₂ (Message.WrittenAlike s t) ms ns) :
    SameOutcome (List.Forall₂ (Message.WrittenAlike s t)) (OutputUnit.validated ms)
      (OutputUnit.validated ns) := by
  induction alike with
  | nil => exact .ok .nil
  | @cons m n ms ns first _ ih =>
      refine .bind (.of_eq first.isIgnored) fun ignored _ same => .bind ih fun _ _ rest => ?_
      subst same
      cases ignored with
      | true => exact .ok rest
      | false => exact .ok (.cons first rest)

private theorem filter_writtenAlike (select : String → Bool)
    (alike : List.Forall₂ (Message.WrittenAlike s t) ms ns) :
    List.Forall₂ (Message.WrittenAlike s t) (ms.filter fun m => select m.name)
      (ns.filter fun n => select n.name) := by
  refine List.rel_filter (fun m n related => ?_) alike
  simp only [related.name]

namespace Java

private theorem validatorFile_writtenAlike (outline : f.SameOutline g)
    (alike : List.Forall₂ (Message.WrittenAlike s t) ms ns) {owner other : String}
    (same : owner = other) :
    (validatorFile f ms owner).WrittenAlike s t (validatorFile g ns other) := by
  subst same
  refine ⟨outline, alike, rfl, ?_⟩
  rw [validatorFile, validatorFile, outline.javaPackage]

private theorem topLevelUnits_congr (outline : f.SameOutline g)
    (alike : List.Forall₂ (Message.WrittenAlike s t) f.messages g.messages)
    {tops others : List Message}
    (related : List.Forall₂ (Message.WrittenAlike s t) tops others) :
    SameOutcome (List.Forall₂ (OutputUnit.WrittenAlike s t)) (topLevelUnits f tops)
      (topLevelUnits g others) := by
  induction related with
  | nil => exact .ok .nil
  | @cons top other tops others first _ ih =>
      have families : List.Forall₂ (Message.WrittenAlike s t) (family f top) (family g other) := by
        rw [family, family, first.name]
        exact filter_writtenAlike (fun name => name == other.name ||
          (Text.after? (other.name ++ ".") name).isSome) alike
      refine .bind (validated_congr families) fun ms ns messages => .bind ih fun _ _ rest => ?_
      have empty : ms.isEmpty = ns.isEmpty := by cases messages <;> rfl
      rw [empty]
      cases ns.isEmpty with
      | true => exact .ok rest
      | false => exact .ok (.cons (validatorFile_writtenAlike outline messages first.name) rest)

theorem units_congr (outline : f.SameOutline g)
    (alike : List.Forall₂ (Message.WrittenAlike s t) f.messages g.messages) :
    SameOutcome (List.Forall₂ (OutputUnit.WrittenAlike s t)) (units f) (units g) := by
  rw [units, units, outline.options]
  cases g.options.javaMultipleFiles with
  | true =>
      exact topLevelUnits_congr outline alike
        (filter_writtenAlike (fun name => !name.toList.contains '.') alike)
  | false =>
      refine .bind (validated_congr alike) fun ms ns messages => ?_
      exact .ok (.cons (validatorFile_writtenAlike outline messages outline.outerClass) .nil)

private theorem validatorLines_congr (same : s.SameOutlines t) (outline : f.SameOutline g)
    (alike : m.WrittenAlike s t n) : validatorLines s f m = validatorLines t g n := by
  have simple : m.simpleName = n.simpleName := by
    rw [Message.simpleName, Message.simpleName, alike.name]
  have owner : validatorClass m = validatorClass n := by
    rw [validatorClass, validatorClass, alike.name]
  rw [validatorLines, validatorLines, qualified_eq same, outline.fullName, alike.name, simple,
    owner, disabledLines, disabledLines, simple, ← alike.isDisabled]
  refine bind_congr_ok fun type _ => bind_congr_ok fun disabled flag => ?_
  cases disabled with
  | true => simp only [if_true]
  | false => rw [alike.classBody (SchemaError.render_eq_ok_iff.mp flag)]

theorem renderUnit_congr (same : s.SameOutlines t) {u v : OutputUnit}
    (alike : u.WrittenAlike s t v) : renderUnit s u = renderUnit t v := by
  have selection : concatM (fun m => do return [← selectionLine s u.file m]) u.messages =
      concatM (fun m => do return [← selectionLine t v.file m]) v.messages := by
    refine concatM_congr alike.messages fun m n related => ?_
    rw [selectionLine, selectionLine, qualified_eq same, alike.file.fullName, related.name,
      validatorClass, validatorClass, related.name]
  have classes : concatM (fun m => do
        return "" :: Lines.indent 1 (← validatorLines s u.file m)) u.messages =
      concatM (fun m => do
        return "" :: Lines.indent 1 (← validatorLines t v.file m)) v.messages := by
    refine concatM_congr alike.messages fun m n related => ?_
    rw [validatorLines_congr same alike.file related]
  have packages : packageLines u.file = packageLines v.file := by
    rw [packageLines, packageLines, alike.file.javaPackage]
  rw [renderUnit, renderUnit, unitLines, unitLines, selection, classes, packages,
    alike.file.name, alike.name]

end Java

namespace Rust

theorem units_congr (outline : f.SameOutline g)
    (alike : List.Forall₂ (Message.WrittenAlike s t) f.messages g.messages) :
    SameOutcome (List.Forall₂ (OutputUnit.WrittenAlike s t)) (units f) (units g) := by
  rw [units, units, outline.stem, outline.package]
  refine .bind (validated_congr alike) fun ms ns messages => ?_
  exact .ok (.cons ⟨outline, messages, rfl, rfl⟩ .nil)

theorem renderUnit_congr (same : s.SameOutlines t) {u v : OutputUnit}
    (alike : u.WrittenAlike s t v) : renderUnit s u = renderUnit t v := by
  have implementations : concatM (messageImplementation s u.file) u.messages =
      concatM (messageImplementation t v.file) v.messages := by
    refine concatM_congr alike.messages fun m n related => ?_
    rw [messageImplementation, messageImplementation, typePath_eq same, alike.file.package,
      alike.file.fullName, related.name, related.methodBody v.file.package]
  rw [renderUnit, renderUnit, implementations, alike.file.name]

end Rust

namespace Generate

variable {settings : Settings}

private theorem unitArtifacts_congr (same : s.SameOutlines t) {us vs : List OutputUnit}
    (alike : List.Forall₂ (OutputUnit.WrittenAlike s t) us vs) :
    unitArtifacts settings s us = unitArtifacts settings t vs := by
  induction alike with
  | nil => rfl
  | @cons u v us vs first _ ih =>
      have content : settings.language.renderUnit s u = settings.language.renderUnit t v := by
        cases settings.language with
        | java => exact Java.renderUnit_congr same first
        | rust => exact Rust.renderUnit_congr same first
      rw [unitArtifacts, unitArtifacts, unitArtifact, unitArtifact, content, first.path, ih]

theorem units_congr (language : Language) (outline : f.SameOutline g)
    (alike : List.Forall₂ (Message.WrittenAlike s t) f.messages g.messages) :
    SameOutcome (List.Forall₂ (OutputUnit.WrittenAlike s t)) (liftRender (language.units f))
      (liftRender (language.units g)) := by
  cases language with
  | java => exact (Java.units_congr outline alike).render.liftRender
  | rust => exact (Rust.units_congr outline alike).render.liftRender

theorem liftCheck_eq_ok_iff {verdict : Verdict} :
    liftCheck verdict = .ok () ↔ verdict = .ok () := by
  cases verdict <;> simp [liftCheck]

private theorem fileArtifacts_congr (same : s.SameOutlines t) (alike : f.Interchangeable s t g) :
    fileArtifacts settings s f = fileArtifacts settings t g := by
  rw [fileArtifacts, fileArtifacts, ← checkFile_congr alike]
  refine bind_congr_ok fun _ passed => ?_
  have messages := writtenAlike_of_checkFile alike (liftCheck_eq_ok_iff.mp passed)
  rw [checkFlags_congr messages, (units_congr settings.language alike.toSameOutline
    messages).bind_eq fun _ _ => unitArtifacts_congr same]

theorem filesArtifacts_congr (same : s.SameOutlines t) {fs gs : List File}
    (alike : List.Forall₂ (File.Interchangeable s t) fs gs) :
    filesArtifacts settings s fs = filesArtifacts settings t gs := by
  induction alike with
  | nil => rfl
  | cons first _ ih =>
      rw [filesArtifacts, filesArtifacts, fileArtifacts_congr same first, ih]

section Selection

variable {R : File → File → Prop} {names : List String}

theorem namedFiles_congr
    (related : ∀ name ∈ names, Option.Rel R (s.file? name) (t.file? name)) :
    SameOutcome (List.Forall₂ R) (namedFiles s names) (namedFiles t names) := by
  induction names with
  | nil => exact .ok .nil
  | cons name names ih =>
      obtain ⟨first, rest⟩ := List.forall_mem_cons.mp related
      rw [namedFiles, namedFiles]
      generalize s.file? name = left at first ⊢
      generalize t.file? name = right at first ⊢
      cases first with
      | none => exact .error _
      | some file => exact .bind (ih rest) fun _ _ files => .ok (.cons file files)

private theorem find?_rel (named : ∀ f g, R f g → f.name = g.name) {fs gs : List File}
    (related : List.Forall₂ R fs gs) (name : String) :
    Option.Rel R (fs.find? (·.name == name)) (gs.find? (·.name == name)) := by
  induction related with
  | nil => exact .none
  | cons first _ ih =>
      rw [List.find?_cons, List.find?_cons, named _ _ first]
      split
      · exact .some first
      · exact ih

private theorem selected_rel (named : ∀ f g, R f g → f.name = g.name)
    (related : List.Forall₂ R s.files t.files) :
    SameOutcome (List.Forall₂ R) (selected s names) (selected t names) := by
  unfold selected
  split
  · exact .ok related
  · exact namedFiles_congr fun name _ => find?_rel named related name

end Selection

end Generate

/-- Requests for the same files whose messages are interchangeable end alike. -/
theorem generate_congr (formatters : Formatters) {r q : Request} (config : Config)
    (asked : r.filesToGenerate = q.filesToGenerate)
    (files : List.Forall₂ (File.Interchangeable (Schema.ofFiles r.files) (Schema.ofFiles q.files))
      r.files q.files) :
    generate formatters r config = generate formatters q config := by
  have outlines : (Schema.ofFiles r.files).SameOutlines (Schema.ofFiles q.files) :=
    Schema.sameOutlines_ofFiles (files.imp fun _ _ same => same.toSameOutline)
  rw [generate, generate, asked]
  refine congrArg _ (funext fun language => ?_)
  exact (Generate.selected_rel (fun _ _ same => same.name) files).bind_eq fun _ _ =>
    Generate.filesArtifacts_congr outlines

end ProtoRules
