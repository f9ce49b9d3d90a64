import StoryPress.Proofs.Story.Turns

namespace StoryPress.Story.Piece

open StoryPress.Json (Lookup)
open StoryPress.Modifier (Registry)

theorem runs_invoke (registry : Registry) (invocation : String) (w : Walk) :
    (w.invoke registry invocation).runs = w.runs := by
  rw [invoke_eq]
  cases arming registry invocation <;> rfl

/-- Invocations alone run nothing, whatever was armed before them. -/
theorem runs_all_modifiers (substitute : String → String) (registry : Registry)
    (invocations : List String) (w : Walk) :
    (Walk.all substitute registry (invocations.map .modifier) w).1.runs = w.runs := by
  induction invocations generalizing w with
  | nil => rfl
  | cons invocation rest ih =>
    calc (Walk.all substitute registry ((invocation :: rest).map .modifier) w).1.runs
        = (Walk.all substitute registry (rest.map .modifier)
            (w.invoke registry invocation)).1.runs := rfl
      _ = (w.invoke registry invocation).runs := ih _
      _ = w.runs := runs_invoke registry invocation w

/-- The Markdown is the pieces in order, the warnings are those of the ambiguous invocations, and
the handlers run are the turns. Invocations after the last text block run nothing. -/
theorem walk_writes_pieces (r : Renderer) (lookup : Lookup) (blocks : List Block) :
    let substitute := fun content => r.inserts lookup (r.links content)
    let registry := r.modifiers lookup
    let taken := turns substitute registry blocks.reverse
    (match r.walk lookup blocks with
    | (w, none) =>
      (∀ turn ∈ taken, turn.left.fault = none) ∧
        w.markdown = String.join (ofBlocks substitute registry [] blocks) ∧
        w.warnings = blocks.filterMap (warning? registry) ∧
        w.runs = taken.map Turn.run
    | (_, some _) => ∃ turn ∈ taken, turn.left.fault ≠ none) ∧
    ∀ trailing : List String,
      (r.walk lookup (blocks ++ trailing.map .modifier)).1.runs =
        (r.walk lookup blocks).1.runs := by
  intro substitute registry taken
  refine ⟨?_, ?_⟩
  · have h : Ended substitute registry blocks (r.walk lookup blocks) := all_ended blocks
    generalize r.walk lookup blocks = ended at h ⊢
    cases h with
    | complete follows ok => exact ⟨ok, follows.markdown, follows.warnings, follows.runs⟩
    | failed bad => exact bad
  · intro trailing
    unfold Renderer.walk
    rw [Walk.all_append]
    rcases Walk.all (r.substitute lookup) (r.modifiers lookup) blocks .start with ⟨w, _ | e⟩
    · exact runs_all_modifiers _ _ trailing w
    · rfl

end StoryPress.Story.Piece
