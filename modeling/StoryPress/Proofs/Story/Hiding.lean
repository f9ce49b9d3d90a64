import StoryPress.Proofs.Modifier.Effects
import StoryPress.Proofs.Story.Conditional

namespace StoryPress.Story.Piece

open StoryPress.Json (Lookup)
open StoryPress.Modifier (Registry)
open StoryPress.Modifier.Builtin (Call Effect effects enabled ofName passage_applyAll)
open StoryPress.Modifier.Builtin.Effect (LeavesNothing onAll sinceHide)

/-- The call of a built-in modifier that an invocation is, if it is one. -/
def call? (lookup : Lookup) (disabled : List String) (invocation : String) : Option Call :=
  ((enabled disabled).find? fun name => (ofName lookup name).accepts invocation).map fun name =>
    ⟨(enabled disabled).idxOf name, name, invocation⟩

/-- The calls since the last text block of a history. -/
def calls (lookup : Lookup) (disabled : List String) : List Block → List Call
  | [] => []
  | .text _ :: _ => []
  | .modifier invocation :: earlier =>
    calls lookup disabled earlier ++ (call? lookup disabled invocation).toList

variable {lookup : Lookup} {disabled : List String}

theorem arming_eq (invocation : String) :
    arming (Modifier.Builtin.registry lookup disabled) invocation =
      (call? lookup disabled invocation).map (Call.arm lookup) := by
  unfold call?
  cases hfind : (enabled disabled).find? fun name => (ofName lookup name).accepts invocation with
  | some name =>
    have haccepts := List.find?_some hfind
    exact arming_builtin_iff.mpr ⟨name, List.mem_of_find?_eq_some hfind, haccepts, rfl⟩
  | none =>
    cases harm : arming (Modifier.Builtin.registry lookup disabled) invocation with
    | none => rfl
    | some a =>
      obtain ⟨name, hmem, haccepts, -⟩ := arming_builtin_iff.mp harm
      exact absurd haccepts (List.find?_eq_none.mp hfind name hmem)

theorem armed_eq (history : List Block) :
    armed (Modifier.Builtin.registry lookup disabled) history =
      (calls lookup disabled history).map (Call.arm lookup) := by
  induction history with
  | nil => rfl
  | cons block earlier ih =>
    cases block with
    | text content => rfl
    | modifier invocation =>
      rw [armed, calls, List.map_append, ih, arming_eq]
      cases call? lookup disabled invocation <;> rfl

/-- What the calls armed by a history do to a text block after it. -/
def effectsOn (substitute : String → String) (lookup : Lookup) (disabled : List String)
    (history : List Block) : List Effect :=
  let registry := Modifier.Builtin.registry lookup disabled
  effects lookup (slotAfter (turns substitute registry history)) (calls lookup disabled history)

/-- Blocks that no turn failed on were all reached. -/
theorem follows_of_turns {substitute : String → String} {registry : Registry}
    {passed : List Block}
    (ok : ∀ turn ∈ turns substitute registry passed.reverse, turn.left.fault = none) :
    ∃ w, Follows substitute registry passed w := by
  have hended : Ended substitute registry passed (Walk.all substitute registry passed .start) :=
    all_ended passed
  generalize Walk.all substitute registry passed .start = ended at hended
  cases hended with
  | complete follows => exact ⟨_, follows⟩
  | failed bad =>
    obtain ⟨turn, hmem, hbad⟩ := bad
    exact absurd (ok turn hmem) hbad

theorem outcome_eq_onAll {substitute : String → String} {passed : List Block} {content : String}
    (ok : ∀ turn ∈ turns substitute (Modifier.Builtin.registry lookup disabled)
      (.text content :: passed.reverse), turn.left.fault = none) :
    outcome (opening substitute content)
        (newTurns substitute (Modifier.Builtin.registry lookup disabled) passed.reverse content) =
      onAll (effectsOn substitute lookup disabled passed.reverse) (opening substitute content) := by
  obtain ⟨w, follows⟩ := follows_of_turns fun turn hmem =>
    ok turn (mem_turns_cons (.text content) hmem)
  have hnew : ∀ turn ∈ newTurns substitute (Modifier.Builtin.registry lookup disabled)
      passed.reverse content, turn.left.fault = none := by
    intro turn hmem
    exact ok turn (List.mem_append_right _ hmem)
  have hmemory : w.window.slots.get =
      slotAfter (turns substitute (Modifier.Builtin.registry lookup disabled) passed.reverse) :=
    funext follows.slots
  have done := applyAll_completed follows.slots hnew
  rw [armed_eq] at done
  rw [newTurns, armed_eq, ← done.passage, passage_applyAll done.error, hmemory]
  rfl

/-- With the built-in modifiers, a text block that a note or a false verdict hides leaves only what
later calls write, whatever its own text, and nothing exactly if they leave nothing. -/
theorem hidden_block_leaves_nothing_iff (r : Renderer) (disabled : List String)
    (hregistry : r.modifiers = fun lookup => Modifier.Builtin.registry lookup disabled)
    (suppress : Bool) (document : Document) (store : Store) (rendering : Rendering)
    (hrender : (r.render suppress document store).result = .ok rendering) :
    let lookup := (dispatchUnless suppress document.directives store).store.get?
    let substitute := fun content => r.inserts lookup (r.links content)
    let pieces := ofBlocks substitute (Modifier.Builtin.registry lookup disabled) []
      document.blocks
    rendering.markdown = String.join pieces ∧
      ∀ before content after, document.blocks = before ++ .text content :: after →
        let done := effectsOn substitute lookup disabled before.reverse
        let left := (onAll (sinceHide done) .hidden).write
        .hide ∈ done → pieces[before.length]? = some left ∧
          (left = "" ↔ LeavesNothing (sinceHide done)) := by
  intro lookup substitute pieces
  obtain ⟨w, follows, ok, hmarkdown⟩ := follows_of_render hrender
  rw [hregistry] at follows ok
  refine ⟨hmarkdown.trans follows.markdown, ?_⟩
  intro before content after hblocks done left hhide
  have hturns : ∀ turn ∈ turns substitute (Modifier.Builtin.registry lookup disabled)
      (.text content :: before.reverse), turn.left.fault = none := by
    intro turn hmem
    refine ok turn ?_
    rw [hblocks, List.reverse_append, List.reverse_cons, List.append_assoc]
    exact mem_turns_append _ hmem
  have hleft : ofBlock substitute (Modifier.Builtin.registry lookup disabled) before.reverse
      (.text content) = left := by
    have houtcome := outcome_eq_onAll hturns
    rw [Effect.onAll_of_hide_mem hhide] at houtcome
    exact congrArg Modifier.Passage.write houtcome
  have hpiece : pieces[before.length]? = some left := by
    rw [← hleft]
    simp only [pieces, hblocks]
    exact getElem?_ofBlocks substitute _ before after (.text content)
  exact ⟨hpiece, Effect.write_onAll_hidden (Effect.hide_not_mem_sinceHide done)⟩

def aside (invocations : List String) : Document where
  directives := []
  blocks := invocations.map Block.modifier ++ [.text "Aside"]

/-- What was done before the note is gone, and `continue` brings nothing back. -/
theorem note_after_align_leaves_nothing :
    let document := aside ["align center", "note", "continue"]
    let store := Store.ofFields []
    let done := effectsOn id store.get? [] (document.blocks.take 3).reverse
    ∃ rendering, (Verdict.plain.render true document store).result = .ok rendering ∧
      .hide ∈ done ∧
      (ofBlocks id (Modifier.Builtin.registry store.get? []) [] document.blocks)[3]? = some "" := by
  intro document store done
  have hok : ((Verdict.plain.render true document store).result.toOption).isSome = true := by
    decide +kernel
  cases hresult : (Verdict.plain.render true document store).result with
  | error e => simp [hresult, Except.toOption] at hok
  | ok rendering =>
    have hdone : done = [.wrap "center" (by decide), .hide, .attach] := by decide +kernel
    have hhide : .hide ∈ done := by
      rw [hdone]
      decide
    have hleaves : LeavesNothing (sinceHide done) := by
      rw [hdone]
      decide
    have hleft := (hidden_block_leaves_nothing_iff Verdict.plain [] rfl true document store
      rendering hresult).2 (document.blocks.take 3) "Aside" [] rfl hhide
    refine ⟨rendering, rfl, hhide, hleft.1.trans (congrArg some (hleft.2.mpr hleaves))⟩

/-- An alignment that comes after the note is written all the same. -/
theorem note_before_align_leaves_wrapper :
    let document := aside ["note", "align center"]
    let store := Store.ofFields []
    let wrapper := "<div style=\"text-align: center\">\n\n\n\n</div>"
    .hide ∈ effectsOn id store.get? [] (document.blocks.take 2).reverse ∧
      (ofBlocks id (Modifier.Builtin.registry store.get? []) [] document.blocks)[2]? =
        some wrapper ∧
      ((Verdict.plain.render true document store).result.map Rendering.markdown).toOption =
        some wrapper := by
  decide +kernel

end StoryPress.Story.Piece
