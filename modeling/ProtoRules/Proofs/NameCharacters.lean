import ProtoRules.Proofs.SnakeCase

/-!
Characters of names that are written in another case. Of separators some are lost and underscores
come in; every other character of the result is the upper or the lower case of one in the name. So a
class of characters that no change of case leads out of holds all of the result.
-/

namespace ProtoRules.Text

/-- A class of characters that no change of case leads out of. -/
structure CaseClosed (P : Char → Prop) : Prop where
  lowered : ∀ c, P c → ∀ d ∈ lowerChar c, P d
  raised : ∀ c, P c → ∀ d ∈ upperChar c, P d
  sigma : P sigma → P smallSigma ∧ P finalSigma

theorem forall_mem_intercalate {α : Type} {P : α → Prop} {sep : List α} {parts : List (List α)}
    (mark : ∀ a ∈ sep, P a) (all : ∀ part ∈ parts, ∀ a ∈ part, P a) :
    ∀ a ∈ sep.intercalate parts, P a := by
  induction parts with
  | nil => exact fun a member => absurd member List.not_mem_nil
  | cons part parts ih =>
      obtain ⟨first, rest⟩ := List.forall_mem_cons.mp all
      cases parts with
      | nil => simpa using first
      | cons next parts =>
          rw [List.intercalate_cons_cons]
          exact List.forall_mem_append.mpr ⟨List.forall_mem_append.mpr ⟨first, mark⟩, ih rest⟩

private theorem mem_of_mem_clusters {cs : List Char} {cluster : Cluster}
    (found : cluster ∈ clusters cs) :
    ∀ c ∈ cluster, c ∈ cs := by
  induction cs generalizing cluster with
  | nil => cases found
  | cons c cs ih =>
      intro d inside
      rw [clusters] at found
      split at found
      · rename_i m ms rest later
        rw [later] at ih
        split at found
        · rcases List.mem_cons.mp found with rfl | found
          · rcases List.mem_cons.mp inside with rfl | inside
            · exact List.mem_cons_self
            · exact List.mem_cons_of_mem c (ih List.mem_cons_self d inside)
          · exact List.mem_cons_of_mem c (ih (List.mem_cons_of_mem _ found) d inside)
        · rcases List.mem_cons.mp found with rfl | found
          · rw [List.mem_singleton.mp inside]
            exact List.mem_cons_self
          · exact List.mem_cons_of_mem c (ih found d inside)
      · rcases List.mem_cons.mp found with rfl | found
        · rw [List.mem_singleton.mp inside]
          exact List.mem_cons_self
        · exact List.mem_cons_of_mem c (ih found d inside)

private theorem mem_of_mem_words {name : String} {w : List Cluster} (found : w ∈ words name) :
    ∀ c ∈ w.flatten, c ∈ name.toList := by
  intro c inside
  obtain ⟨cluster, inWord, inside⟩ := List.mem_flatten.mp inside
  exact mem_of_mem_clusters (mem_of_mem_wordsOf found cluster inWord) c inside

namespace CaseClosed

variable {P : Char → Prop} {cs : List Char} {name : String}

theorem upper (closed : CaseClosed P) (all : ∀ c ∈ cs, P c) : ∀ c ∈ upper cs, P c := by
  intro d member
  obtain ⟨c, inside, mapped⟩ := List.mem_flatMap.mp member
  exact closed.raised c (all c inside) d mapped

theorem lower (closed : CaseClosed P) (all : ∀ c ∈ cs, P c) : ∀ c ∈ lower cs, P c := by
  have after : ∀ before, ∀ c ∈ lowerAfter before cs, P c := by
    induction cs with
    | nil => exact fun _ c member => absurd member List.not_mem_nil
    | cons c cs ih =>
        obtain ⟨first, rest⟩ := List.forall_mem_cons.mp all
        intro before
        rw [lowerAfter]
        refine List.forall_mem_append.mpr ⟨fun d member => ?_, ih rest (c :: before)⟩
        split at member
        · rename_i same
          obtain ⟨small, final⟩ := closed.sigma (same ▸ first)
          rw [List.mem_singleton.mp member]
          split
          · exact final
          · exact small
        · exact closed.lowered c first d member
  exact after []

theorem toUpper (closed : CaseClosed P) (all : ∀ c ∈ name.toList, P c) :
    ∀ c ∈ (toUpper name).toList, P c := by
  rw [Text.toUpper, String.toList_ofList]
  exact closed.upper all

theorem lowerWord {w : List Cluster} (closed : CaseClosed P) (all : ∀ c ∈ w.flatten, P c) :
    ∀ c ∈ lowerWord w, P c :=
  closed.lower all

theorem capitalWord {w : List Cluster} (closed : CaseClosed P) (all : ∀ c ∈ w.flatten, P c) :
    ∀ c ∈ capitalWord w, P c := by
  cases w with
  | nil => exact all
  | cons first rest =>
      rw [List.flatten_cons] at all
      obtain ⟨first, rest⟩ := List.forall_mem_append.mp all
      exact List.forall_mem_append.mpr ⟨closed.upper first, closed.lower rest⟩

theorem pascal (closed : CaseClosed P) (all : ∀ c ∈ name.toList, P c) :
    ∀ c ∈ (pascal name).toList, P c := by
  rw [Text.pascal, String.toList_ofList]
  intro c member
  obtain ⟨w, found, inside⟩ := List.mem_flatMap.mp member
  exact closed.capitalWord (fun d within => all d (mem_of_mem_words found d within)) c inside

theorem camel (closed : CaseClosed P) (all : ∀ c ∈ name.toList, P c) :
    ∀ c ∈ (camel name).toList, P c := by
  have within : ∀ w ∈ words name, ∀ c ∈ w.flatten, P c := fun w found c inside =>
    all c (mem_of_mem_words found c inside)
  rw [Text.camel, String.toList_ofList]
  cases split : words name with
  | nil => exact fun c member => absurd member List.not_mem_nil
  | cons w ws =>
      rw [split] at within
      obtain ⟨first, rest⟩ := List.forall_mem_cons.mp within
      rw [camelWords]
      refine List.forall_mem_append.mpr ⟨closed.lowerWord first, fun c member => ?_⟩
      obtain ⟨v, found, inside⟩ := List.mem_flatMap.mp member
      exact closed.capitalWord (rest v found) c inside

theorem snake (closed : CaseClosed P) (mark : P '_') (all : ∀ c ∈ name.toList, P c) :
    ∀ c ∈ (snake name).toList, P c := by
  rw [Text.snake, String.toList_ofList]
  refine forall_mem_intercalate (List.forall_mem_singleton.mpr mark) ?_
  refine List.forall_mem_map.mpr fun w found => ?_
  exact closed.lowerWord fun c inside => all c (mem_of_mem_words found c inside)

end CaseClosed

end ProtoRules.Text
