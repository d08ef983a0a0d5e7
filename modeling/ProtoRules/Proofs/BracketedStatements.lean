import ProtoRules.Emit.JavaBody
import ProtoRules.Proofs.Brackets

/-!
Brackets of statements. The lines of a statement leave no bracket open, provided that the texts it
is made of leave none open; where blocks are nested in each other, the lines inside are read with
the brackets that are awaited around them.
-/

namespace ProtoRules.Java

section Lines

variable {before middle after : List Char} {s line : String} {lines others : Lines}

/-- Lines that turn the awaited brackets into others. -/
def Nests (before after : List Char) (lines : Lines) : Prop :=
  lines.foldlM awaitedAfter? before = some after

instance (before after : List Char) (lines : Lines) : Decidable (Nests before after lines) :=
  inferInstanceAs (Decidable (_ = _))

namespace Nests

theorem nil (awaited : List Char) : Nests awaited awaited [] := rfl

theorem cons (first : Turns before middle line) (rest : Nests middle after lines) :
    Nests before after (line :: lines) := by
  rw [Nests, List.foldlM_cons, awaitedAfter?_eq_some_iff.mpr first]
  exact rest

theorem singleton (turns : Turns before after line) : Nests before after [line] :=
  cons turns (nil after)

theorem append (first : Nests before middle lines) (rest : Nests middle after others) :
    Nests before after (lines ++ others) := by
  rw [Nests, List.foldlM_append, first]
  exact rest

private theorem exists_of_cons (nests : Nests before after (line :: lines)) :
    ∃ middle, Turns before middle line ∧ Nests middle after lines := by
  rw [Nests, List.foldlM_cons] at nests
  obtain ⟨middle, first, rest⟩ := Option.bind_eq_some_iff.mp nests
  exact ⟨middle, awaitedAfter?_eq_some_iff.mp first, rest⟩

theorem frame (nests : Nests before after lines) (outer : List Char) :
    Nests (before ++ outer) (after ++ outer) lines := by
  induction lines generalizing before with
  | nil =>
      cases nests
      exact nil _
  | cons line lines ih =>
      obtain ⟨middle, first, rest⟩ := exists_of_cons nests
      exact cons (first.frame outer) (ih rest)

/-- Lines that leave no bracket open can stand inside any brackets. -/
theorem closed (nests : Nests [] [] lines) (awaited : List Char) : Nests awaited awaited lines :=
  nests.frame awaited

theorem flatMap {α : Type} {xs : List α} {f : α → Lines} (each : ∀ x ∈ xs, Nests [] [] (f x)) :
    Nests [] [] (xs.flatMap f) := by
  induction xs with
  | nil => exact nil []
  | cons x xs ih =>
      obtain ⟨first, rest⟩ := List.forall_mem_cons.mp each
      rw [List.flatMap_cons]
      exact first.append (ih rest)

end Nests

theorem plain_tabs (depth : Nat) : Plain (Lines.tabs depth) := by
  unfold Plain Lines.tabs
  rw [String.toList_ofList]
  intro c member
  rw [List.eq_of_mem_replicate member]
  decide

private theorem pieces_of_not_mem {sep : Char} {cs : List Char} (free : sep ∉ cs) :
    Text.pieces sep cs = [cs] := by
  induction cs with
  | nil => rfl
  | cons c cs ih =>
      obtain ⟨other, rest⟩ := List.ne_and_not_mem_of_not_mem_cons free
      rw [Text.pieces, if_neg other.symm, ih rest]

private theorem pieces_append_cons {sep : Char} {front : List Char} (free : sep ∉ front)
    (rest : List Char) :
    Text.pieces sep (front ++ sep :: rest) = front :: Text.pieces sep rest := by
  induction front with
  | nil => exact if_pos rfl
  | cons c front ih =>
      obtain ⟨other, later⟩ := List.ne_and_not_mem_of_not_mem_cons free
      rw [List.cons_append, Text.pieces, if_neg other.symm, ih later]

private theorem Turns.not_mem (turns : Turns before after s) :
    '\n' ∉ s.toList ∧ '\r' ∉ s.toList := by
  have unbroken := unbroken_of_foldlM_advance turns
  constructor
  · intro member
    cases unbroken _ member
  · intro member
    cases unbroken _ member

/-- A line without breaks stays one line when it is moved to the right. -/
theorem Turns.indentLine (turns : Turns before after s) (depth : Nat) :
    Nests before after (Lines.indentLine depth s) := by
  obtain ⟨line, carriage⟩ := turns.not_mem
  have kept : Lines.dropReturn s.toList = s.toList :=
    if_neg fun last => carriage (List.mem_of_getLast? last)
  rw [Lines.indentLine, pieces_of_not_mem line, List.map_singleton]
  dsimp only
  rw [kept, String.ofList_toList]
  apply Nests.singleton
  split
  · rename_i empty
    rw [Turns, List.isEmpty_iff.mp empty] at turns
    exact turns
  · exact turns.prepend (plain_tabs depth).balanced

theorem Nests.indent (nests : Nests before after lines) (depth : Nat) :
    Nests before after (Lines.indent depth lines) := by
  induction lines generalizing before with
  | nil =>
      cases nests
      exact nil _
  | cons line lines ih =>
      obtain ⟨middle, first, rest⟩ := exists_of_cons nests
      rw [Lines.indent, List.flatMap_cons]
      exact (first.indentLine depth).append (ih rest)

private theorem Nests.splitOn_text (nests : Nests before after lines) :
    Text.splitOn '\n' (Lines.text lines) = lines ++ [""] := by
  induction lines generalizing before with
  | nil => rfl
  | cons line lines ih =>
      obtain ⟨middle, first, rest⟩ := exists_of_cons nests
      have text : (Lines.text (line :: lines)).toList =
          line.toList ++ '\n' :: (Lines.text lines).toList := by
        rw [Lines.text, List.map_cons, String.join_cons, String.toList_append,
          String.toList_append, List.append_assoc]
        rfl
      rw [Text.splitOn, text, pieces_append_cons first.not_mem.1, List.map_cons,
        String.ofList_toList]
      exact congrArg (line :: ·) (ih rest)

/-- The text of lines that leave no bracket open has its brackets in order. -/
theorem wellBracketed_of_nests (nests : Nests [] [] lines) : WellBracketed (Lines.text lines) := by
  have empty : Nests [] [] [""] := .singleton rfl
  rw [WellBracketed, nests.splitOn_text]
  exact nests.append empty

end Lines

theorem balanced_callText {method : String} {operands : List Operand} (called : Plain method)
    (each : ∀ o ∈ operands, Balanced o.text) : Balanced (callText method operands) := by
  have front : Plain (runtime ++ "." ++ method) := Plain.append (by decide) called
  have opening : Turns [] [')'] "(" := by decide
  have closing : Turns [')'] [] ");" := by decide
  have listed : Balanced (", ".intercalate (operands.map Operand.text)) :=
    balanced_intercalate (by decide) (List.forall_mem_map.mpr each)
  rw [callText]
  exact ((opening.prepend front.balanced).extend listed).append closing

/-- The texts that a statement is made of leave no bracket open. -/
inductive Statement.Tidy : Statement → Prop
  | note {text : String} (plain : Plain text) : Tidy (.note text)
  | call {condition : Option String} {method : String} {operands : List Operand}
      (guard : ∀ c ∈ condition, Balanced c) (called : Plain method)
      (each : ∀ o ∈ operands, Balanced o.text) : Tidy (.call condition method operands)
  | delegate {condition accessor : String} (guard : Balanced condition)
      (subject : Balanced accessor) : Tidy (.delegate condition accessor)
  | required {condition accessor : String} {error : Operand} (guard : Balanced condition)
      (raised : Balanced error.text) (subject : Balanced accessor) :
      Tidy (.required condition error accessor)
  | block {condition : String} {body : List Statement} (guard : Balanced condition)
      (inside : ∀ s ∈ body, Tidy s) : Tidy (.block condition body)
  | forEach {method target parameter : String} {body : List Statement} (called : Plain method)
      (subject : Balanced target) (named : Plain parameter) (inside : ∀ s ∈ body, Tidy s) :
      Tidy (.forEach method target parameter body)
  | unwrapped {condition : String} {body : List Statement} {missing : Option Operand}
      (guard : Balanced condition) (inside : ∀ s ∈ body, Tidy s)
      (raised : ∀ error ∈ missing, Balanced error.text) :
      Tidy (.unwrapped condition body missing)

namespace Statement

private theorem linesAll_eq_flatMap (ss : List Statement) : linesAll ss = ss.flatMap lines := by
  induction ss with
  | nil => rfl
  | cons s ss ih => rw [linesAll, ih, List.flatMap_cons]

/-- A line that raises an error because a value is missing. -/
private theorem balanced_missing {error operand : Operand} (raised : Balanced error.text)
    (other : Balanced operand.text) :
    Balanced ("\t" ++ callText requiredMethod [error, operand]) := by
  have tab : Balanced "\t" := by decide
  refine tab.append (balanced_callText (by decide) ?_)
  exact List.forall_mem_cons.mpr ⟨raised, List.forall_mem_singleton.mpr other⟩

theorem Tidy.nests {s : Statement} (tidy : s.Tidy) : Nests [] [] s.lines := by
  induction tidy with
  | note plain =>
      rw [lines]
      exact .singleton (Plain.append (by decide) plain).balanced
  | @call condition method operands guard called each =>
      rw [lines]
      apply Nests.singleton
      refine Turns.append ?_ (balanced_callText called each)
      cases condition with
      | none => rfl
      | some c =>
          have opening : Turns [] [')'] "if (" := by decide
          have closing : Turns [')'] [] ") " := by decide
          exact (opening.extend (guard c rfl)).append closing
  | delegate guard subject =>
      have opening : Turns [] [')'] "if (" := by decide
      have handed : Turns [')'] [')'] ") index.validatorFor(" := by decide
      have asserted : Turns [')'] [')'] ").assertValid(" := by decide
      have closing : Turns [')'] [] ");" := by decide
      rw [lines]
      apply Nests.singleton
      have first := ((opening.extend guard).append handed).extend subject
      exact ((first.append asserted).extend subject).append closing
  | @required condition accessor error guard raised subject =>
      have opening : Turns [] [')'] "if (" := by decide
      have entered : Turns [')'] [] ")" := by decide
      have otherwise : Balanced " else" := by decide
      have stop : Balanced ";" := by decide
      rw [lines]
      refine .cons ((opening.extend guard).append entered).opens ?_
      have handed : Balanced (Operand.code accessor).text := subject
      refine .cons ((balanced_missing raised handed).closed _) ?_
      refine .cons otherwise.opens.closes ?_
      refine .cons ((balanced_missing raised (by decide)).closed _) ?_
      exact .singleton stop.closes
  | @block condition body guard inside ih =>
      have opening : Turns [] [')'] "if ( " := by decide
      have entered : Turns [')'] [] " )" := by decide
      have rest : Balanced "" := by decide
      rw [lines, linesAll_eq_flatMap]
      refine .append (.append (.singleton ((opening.extend guard).append entered).opens) ?_)
        (.singleton rest.closes)
      -- By itself the body leaves nothing open, so it can be read with what the block awaits.
      exact ((Nests.flatMap ih).indent 1).closed _
  | @forEach method target parameter body called subject named inside ih =>
      have opening : Turns [] [')'] "(" := by decide
      have arrow : Balanced " ->" := by decide
      have closing : Turns [')'] [] ");" := by decide
      have comma : Balanced ", " := by decide
      have front : Plain (runtime ++ "." ++ method) := Plain.append (by decide) called
      have handed := ((opening.prepend front.balanced).extend subject).extend comma
      rw [lines, linesAll_eq_flatMap]
      refine .append (.append (.singleton ((handed.extend named.balanced).extend arrow).opens) ?_)
        (.singleton closing.closes)
      exact ((Nests.flatMap ih).indent 1).closed _
  | @unwrapped condition body missing guard inside raised ih =>
      have opening : Turns [] [')'] "if (" := by decide
      have entered : Turns [')'] [] ")" := by decide
      have otherwise : Balanced " else" := by decide
      have rest : Balanced "" := by decide
      have front := (Nests.singleton ((opening.extend guard).append entered).opens).append
        (((Nests.flatMap ih).indent 1).closed _)
      cases missing with
      | none =>
          rw [lines, linesAll_eq_flatMap]
          exact (front.append (.nil _)).append (.singleton rest.closes)
      | some error =>
          have missed := balanced_missing (raised error rfl) (by decide : Balanced nullOperand.text)
          have second := Nests.cons otherwise.opens.closes (.singleton (missed.closed _))
          rw [lines, linesAll_eq_flatMap]
          exact (front.append second).append (.singleton rest.closes)

theorem nests_linesAll {ss : List Statement} (tidy : ∀ s ∈ ss, s.Tidy) :
    Nests [] [] (linesAll ss) := by
  rw [linesAll_eq_flatMap]
  exact Nests.flatMap fun s member => (tidy s member).nests

theorem tidy_guarded {condition : Option String} {body : List Statement}
    (guard : ∀ c ∈ condition, Balanced c) (tidy : ∀ s ∈ body, s.Tidy) :
    ∀ s ∈ guarded condition body, s.Tidy := by
  unfold guarded
  split
  · exact fun s member => absurd member List.not_mem_nil
  · exact List.forall_mem_singleton.mpr (.block (guard _ rfl) tidy)
  · exact tidy

theorem tidy_forAll {method target parameter : String} {body : List Statement}
    (called : Plain method) (subject : Balanced target) (named : Plain parameter)
    (tidy : ∀ s ∈ body, s.Tidy) : ∀ s ∈ forAll method target parameter body, s.Tidy := by
  unfold forAll
  split
  · exact fun s member => absurd member List.not_mem_nil
  · exact List.forall_mem_singleton.mpr (.forEach called subject named tidy)

end Statement

end ProtoRules.Java
