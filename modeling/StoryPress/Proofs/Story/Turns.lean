import StoryPress.Story.Piece
import Mathlib.Data.List.Basic
import Mathlib.Data.List.Induction
import Mathlib.Data.List.Nodup

/-! The block pass keeps a window of armed modifiers and a table of slots. Here both are read off
the blocks passed so far: as long as no handler has failed, the window holds what the history arms
and every slot is what the last turn of its modifier left. A pass stops early exactly if a turn
fails. -/
namespace StoryPress.Story.Piece

open StoryPress.Story (RenderError)
open StoryPress.Modifier (Applied Armed Passage Registry Slots Window applyAll)

variable (substitute : String → String) (registry : Registry)

theorem slotAfter_concat (earlier : List Turn) (turn : Turn) (index : Nat) :
    slotAfter (earlier ++ [turn]) index =
      if index = turn.armed.index then turn.left.slot else slotAfter earlier index := by
  by_cases h : index = turn.armed.index
  · simp [slotAfter, h]
  · have hne : (turn.armed.index == index) = false := beq_false_of_ne (Ne.symm h)
    simp [slotAfter, h, hne]

@[simp] theorem outcome_nil (passage : Passage) : outcome passage [] = passage := rfl

theorem outcome_cons (passage : Passage) (turn : Turn) (rest : List Turn) :
    outcome passage (turn :: rest) = outcome turn.left.passage rest := by
  unfold outcome
  rw [List.getLast?_cons]
  cases rest.getLast? <;> rfl

theorem turnsOn_append (earlier : List Turn) (passage : Passage) (xs ys : List Armed) :
    turnsOn earlier passage (xs ++ ys) =
      turnsOn earlier passage xs ++
        turnsOn (earlier ++ turnsOn earlier passage xs)
          (outcome passage (turnsOn earlier passage xs)) ys := by
  induction xs generalizing earlier passage with
  | nil => simp [turnsOn]
  | cons a rest ih => simp [turnsOn, ih, outcome_cons]

/-- A table of slots holds what the last turns left. -/
def Remembers (slots : Slots) (turns : List Turn) : Prop :=
  ∀ index, slots.get index = slotAfter turns index

theorem Remembers.put {slots : Slots} {turns : List Turn} (h : Remembers slots turns)
    (turn : Turn) : Remembers (slots.put turn.armed.index turn.left.slot) (turns ++ [turn]) := by
  intro index
  rw [Slots.get_put, slotAfter_concat, h index]

/-- Running a window without failure gives every armed modifier its turn. -/
structure Completed (earlier : List Turn) (passage : Passage) (turns : List Turn)
    (applied : Applied) : Prop where
  error : applied.error = none
  passage : applied.passage = outcome passage turns
  slots : Remembers applied.slots (earlier ++ turns)
  runs : applied.runs = turns.map Turn.run

theorem applyAll_cons {slots : Slots} {earlier : List Turn} (h : Remembers slots earlier)
    (passage : Passage) (a : Armed) (rest : List Armed) :
    let turn := takeTurn earlier passage a
    let kept := slots.put turn.armed.index turn.left.slot
    applyAll (a :: rest) passage slots =
      match turn.left.fault with
      | some fault =>
        ⟨turn.left.passage, kept, [turn.run], some (.modifier a.modifier.name fault)⟩
      | none =>
        let later := applyAll rest turn.left.passage kept
        { later with runs := turn.run :: later.runs } := by
  simp only [applyAll, h a.index]
  rfl

theorem applyAll_completed {armed : List Armed} {passage : Passage} {slots : Slots}
    {earlier : List Turn} (h : Remembers slots earlier)
    (ok : ∀ turn ∈ turnsOn earlier passage armed, turn.left.fault = none) :
    Completed earlier passage (turnsOn earlier passage armed) (applyAll armed passage slots) := by
  induction armed generalizing passage slots earlier with
  | nil => exact ⟨rfl, rfl, by simpa [turnsOn, applyAll] using h, rfl⟩
  | cons a rest ih =>
    rw [turnsOn] at ok ⊢
    have hfault := ok _ List.mem_cons_self
    have later := ih (h.put _) fun turn ht => ok turn (List.mem_cons_of_mem _ ht)
    rw [applyAll_cons h, hfault]
    refine ⟨later.error, ?_, ?_, ?_⟩
    · rw [outcome_cons]
      exact later.passage
    · rw [List.append_cons]
      exact later.slots
    · rw [List.map_cons]
      exact congrArg _ later.runs

theorem applyAll_error {armed : List Armed} {passage : Passage} {slots : Slots}
    {earlier : List Turn} (h : Remembers slots earlier)
    (bad : ∃ turn ∈ turnsOn earlier passage armed, turn.left.fault ≠ none) :
    ∃ e, (applyAll armed passage slots).error = some e := by
  induction armed generalizing passage slots earlier with
  | nil => simp [turnsOn] at bad
  | cons a rest ih =>
    rw [applyAll_cons h]
    cases hf : (takeTurn earlier passage a).left.fault with
    | some fault => exact ⟨_, rfl⟩
    | none =>
      obtain ⟨turn, ht, hbad⟩ := bad
      rw [turnsOn, List.mem_cons] at ht
      rcases ht with rfl | ht
      · exact absurd hf hbad
      · exact ih (h.put _) ⟨turn, ht, hbad⟩

theorem accepting_eq (invocation : String) :
    registry.accepting invocation = (candidates registry invocation).map Armed.index := by
  simp [Modifier.Registry.accepting, candidates]

theorem mem_candidates {invocation : String} {a : Armed} :
    a ∈ candidates registry invocation ↔
      registry[a.index]? = some a.modifier ∧ a.modifier.accepts invocation = true ∧
        a.invocation = invocation := by
  simp only [candidates, List.mem_map, List.mem_filter, Prod.exists]
  constructor
  · rintro ⟨m, i, ⟨hmem, haccepts⟩, rfl⟩
    exact ⟨List.mem_zipIdx_iff_getElem?.mp hmem, haccepts, rfl⟩
  · rintro ⟨hget, haccepts, rfl⟩
    exact ⟨a.modifier, a.index, ⟨List.mem_zipIdx_iff_getElem?.mpr hget, haccepts⟩, rfl⟩

theorem mem_candidates_of_arming {invocation : String} {a : Armed}
    (h : arming registry invocation = some a) : a ∈ candidates registry invocation := by
  unfold arming at h
  split at h
  · next b hb =>
    cases h
    simp [hb]
  · cases h

theorem nodup_candidates (invocation : String) : (candidates registry invocation).Nodup := by
  have hindices : ((candidates registry invocation).map Armed.index).Nodup := by
    rw [← accepting_eq]
    have hsub : (registry.accepting invocation).Sublist (registry.zipIdx.map (·.2)) :=
      List.filter_sublist.map _
    rw [List.zipIdx_map_snd] at hsub
    exact hsub.nodup List.nodup_range'
  exact List.Nodup.of_map Armed.index hindices

theorem arming_of_unique {invocation : String} {a : Armed}
    (ha : a ∈ candidates registry invocation)
    (hall : ∀ b ∈ candidates registry invocation, b = a) : arming registry invocation = some a := by
  have hnodup := nodup_candidates registry invocation
  unfold arming
  rcases hc : candidates registry invocation with _ | ⟨b, _ | ⟨c, more⟩⟩
  · simp [hc] at ha
  · rw [hall b (by simp [hc])]
  · rw [hc, hall b (by simp [hc]), hall c (by simp [hc])] at hnodup
    simp at hnodup

theorem names_candidates (invocation : String) :
    registry.names ((candidates registry invocation).map Armed.index) =
      (candidates registry invocation).map fun a => a.modifier.name := by
  unfold Modifier.Registry.names
  rw [List.filterMap_map, List.filterMap_eq_map_iff_forall_eq_some]
  intro a ha
  simp [((mem_candidates registry).mp ha).1]

/-- An invocation is armed, or it stays in the text. -/
theorem invoke_eq (invocation : String) (w : Walk) :
    w.invoke registry invocation =
      match arming registry invocation with
      | some a => { w with window := w.window.activate a }
      | none =>
        { w with
          markdown := w.markdown ++ ("\n\n[" ++ invocation ++ "]\n\n")
          warnings := w.warnings ++ (warning? registry (.modifier invocation)).toList } := by
  have hfallback : Modifier.fallback invocation = "\n\n[" ++ invocation ++ "]\n\n" := by
    rw [← String.toList_inj]
    simp [Modifier.fallback, Modifier.separator]
  have hnames := names_candidates registry invocation
  have hmem := @mem_candidates registry invocation
  simp only [Walk.invoke, Modifier.Registry.resolve, arming, warning?, accepting_eq, hfallback]
  cases hc : candidates registry invocation with
  | nil => simp
  | cons a more =>
    rw [hc] at hnames hmem
    cases more with
    | nil =>
      obtain ⟨hget, -, rfl⟩ := hmem.mp List.mem_cons_self
      simp [hget]
    | cons b more =>
      simp only [List.map_cons] at hnames ⊢
      simp [hnames]

theorem ofBlocks_append (earlier xs ys : List Block) :
    ofBlocks substitute registry earlier (xs ++ ys) =
      ofBlocks substitute registry earlier xs ++
        ofBlocks substitute registry (xs.reverse ++ earlier) ys := by
  induction xs generalizing earlier with
  | nil => rfl
  | cons x xs ih => simp [ofBlocks, ih]

theorem length_ofBlocks (earlier blocks : List Block) :
    (ofBlocks substitute registry earlier blocks).length = blocks.length := by
  induction blocks generalizing earlier with
  | nil => rfl
  | cons block rest ih => simp [ofBlocks, ih]

theorem getElem?_ofBlocks (passed later : List Block) (block : Block) :
    (ofBlocks substitute registry [] (passed ++ block :: later))[passed.length]? =
      some (ofBlock substitute registry passed.reverse block) := by
  rw [ofBlocks_append, List.getElem?_append_right (by simp [length_ofBlocks])]
  simp [length_ofBlocks, ofBlocks]

/-- A place among the blocks where no turn has failed yet. -/
structure Follows (passed : List Block) (w : Walk) : Prop where
  armed : w.window.armed = armed registry passed.reverse
  slots : Remembers w.window.slots (turns substitute registry passed.reverse)
  runs : w.runs = (turns substitute registry passed.reverse).map Turn.run
  markdown : w.markdown = String.join (ofBlocks substitute registry [] passed)
  warnings : w.warnings = passed.filterMap (warning? registry)

theorem follows_start : Follows substitute registry [] .start :=
  ⟨rfl, fun _ => rfl, rfl, rfl, rfl⟩

variable {substitute registry}

/-- The state of a walk and the pieces after one more block. -/
theorem join_concat {passed : List Block} {w : Walk} (h : Follows substitute registry passed w)
    (block : Block) :
    String.join (ofBlocks substitute registry [] (passed ++ [block])) =
      w.markdown ++ ofBlock substitute registry passed.reverse block := by
  rw [ofBlocks_append, h.markdown]
  simp [ofBlocks]

theorem Follows.invoke {passed : List Block} {w : Walk} (h : Follows substitute registry passed w)
    (invocation : String) :
    Follows substitute registry (passed ++ [.modifier invocation])
      (w.invoke registry invocation) := by
  have hpiece := join_concat h (.modifier invocation)
  rw [invoke_eq]
  cases harm : arming registry invocation with
  | none =>
    refine ⟨?_, ?_, ?_, ?_, ?_⟩
    · simpa [Piece.armed, harm] using h.armed
    · simpa [turns] using h.slots
    · simpa [turns] using h.runs
    · simpa [ofBlock, harm] using hpiece.symm
    · rw [List.filterMap_append, h.warnings]
      cases hw : warning? registry (.modifier invocation) <;> simp [hw]
  | some a =>
    have hquiet : warning? registry (.modifier invocation) = none := by
      unfold arming at harm
      split at harm
      · next hc => simp [warning?, hc]
      · cases harm
    refine ⟨?_, ?_, ?_, ?_, ?_⟩
    · simp [Piece.armed, harm, Window.activate, h.armed]
    · intro index
      simpa [turns, Window.activate, Slots.get_create] using h.slots index
    · simpa [turns] using h.runs
    · simpa [ofBlock, harm] using hpiece.symm
    · simp [h.warnings, hquiet]

theorem turns_text (earlier : List Block) (content : String) :
    turns substitute registry (.text content :: earlier) =
      turns substitute registry earlier ++ newTurns substitute registry earlier content := rfl

theorem step_text_ok {w : Walk} {content : String} {applied : Applied}
    (h : applyAll w.window.armed (opening substitute content) w.window.slots = applied)
    (ok : applied.error = none) :
    w.step substitute registry (.text content) =
      (⟨⟨[], applied.slots⟩, w.markdown ++ applied.passage.write, w.warnings,
        w.runs ++ applied.runs⟩, none) := by
  have hopening : Passage.ofText (substitute content) = opening substitute content := rfl
  simp [Walk.step, Window.apply, hopening, h, ok]

theorem step_text_error {w : Walk} {content : String} {e : RenderError}
    (h : (applyAll w.window.armed (opening substitute content) w.window.slots).error = some e) :
    ∃ next, w.step substitute registry (.text content) = (next, some e) := by
  have hopening : Passage.ofText (substitute content) = opening substitute content := rfl
  simp [Walk.step, Window.apply, hopening, h]

theorem Follows.text {passed : List Block} {w : Walk} (h : Follows substitute registry passed w)
    {content : String}
    (ok : ∀ turn ∈ newTurns substitute registry passed.reverse content, turn.left.fault = none) :
    ∃ next, w.step substitute registry (.text content) = (next, none) ∧
      Follows substitute registry (passed ++ [.text content]) next := by
  have hpiece := join_concat h (.text content)
  have done := applyAll_completed h.slots ok
  rw [← h.armed] at done
  refine ⟨_, step_text_ok rfl done.error, ?_, ?_, ?_, ?_, ?_⟩
  · simp [Piece.armed]
  · simpa [turns_text, newTurns, h.armed] using done.slots
  · rw [h.runs, done.runs, h.armed]
    simp [turns_text, newTurns]
  · rw [hpiece, done.passage]
    simp [ofBlock, newTurns, h.armed, Passage.write]
  · simp [h.warnings, warning?]

theorem Follows.text_error {passed : List Block} {w : Walk}
    (h : Follows substitute registry passed w) {content : String}
    (bad : ∃ turn ∈ newTurns substitute registry passed.reverse content, turn.left.fault ≠ none) :
    ∃ next e, w.step substitute registry (.text content) = (next, some e) := by
  rw [newTurns, ← h.armed] at bad
  obtain ⟨e, he⟩ := applyAll_error h.slots bad
  obtain ⟨next, hstep⟩ := step_text_error he
  exact ⟨next, e, hstep⟩

/-- How a block pass ended: all turns were taken, or one of them failed. -/
inductive Ended (substitute : String → String) (registry : Registry) (blocks : List Block) :
    Walk × Option RenderError → Prop
  | complete {w : Walk} (follows : Follows substitute registry blocks w)
      (ok : ∀ turn ∈ turns substitute registry blocks.reverse, turn.left.fault = none) :
      Ended substitute registry blocks (w, none)
  | failed {w : Walk} {e : RenderError}
      (bad : ∃ turn ∈ turns substitute registry blocks.reverse, turn.left.fault ≠ none) :
      Ended substitute registry blocks (w, some e)

theorem Follows.ended_text {passed : List Block} {w : Walk}
    (h : Follows substitute registry passed w)
    (ok : ∀ turn ∈ turns substitute registry passed.reverse, turn.left.fault = none)
    (content : String) :
    Ended substitute registry (passed ++ [.text content])
      (w.step substitute registry (.text content)) := by
  by_cases hnew : ∀ turn ∈ newTurns substitute registry passed.reverse content,
      turn.left.fault = none
  · obtain ⟨next, hstep, hfollows⟩ := h.text hnew
    rw [hstep]
    refine .complete hfollows ?_
    rw [List.reverse_concat, turns_text]
    intro turn ht
    rcases List.mem_append.mp ht with ht | ht
    · exact ok turn ht
    · exact hnew turn ht
  · push Not at hnew
    obtain ⟨next, e, hstep⟩ := h.text_error hnew
    obtain ⟨turn, ht, hbad⟩ := hnew
    rw [hstep]
    refine .failed ⟨turn, ?_, hbad⟩
    rw [List.reverse_concat, turns_text]
    exact List.mem_append_right _ ht

theorem all_concat (passed : List Block) (block : Block) (w : Walk) :
    Walk.all substitute registry (passed ++ [block]) w =
      match Walk.all substitute registry passed w with
      | (w, some e) => (w, some e)
      | (w, none) => w.step substitute registry block := by
  have hone : ∀ w : Walk, Walk.all substitute registry [block] w =
      w.step substitute registry block := by
    intro w
    rw [Walk.all]
    rcases w.step substitute registry block with ⟨next, _ | e⟩ <;> rfl
  rw [Walk.all_append]
  rcases Walk.all substitute registry passed w with ⟨next, _ | e⟩
  · exact hone next
  · rfl

theorem mem_turns_cons {turn : Turn} {earlier : List Block} (block : Block)
    (h : turn ∈ turns substitute registry earlier) :
    turn ∈ turns substitute registry (block :: earlier) := by
  cases block with
  | modifier invocation => exact h
  | text content => exact List.mem_append_left _ h

theorem mem_turns_append {turn : Turn} {earlier : List Block} (later : List Block)
    (h : turn ∈ turns substitute registry earlier) :
    turn ∈ turns substitute registry (later ++ earlier) := by
  induction later with
  | nil => exact h
  | cons block later ih => exact mem_turns_cons block ih

/-- Block by block from the front: a complete pass takes a turn more, a failed one stays failed. -/
theorem all_ended (blocks : List Block) :
    Ended substitute registry blocks (Walk.all substitute registry blocks .start) := by
  induction blocks using List.reverseRecOn with
  | nil => exact .complete (follows_start substitute registry) (by simp [turns])
  | append_singleton passed block ih =>
    rw [all_concat]
    generalize Walk.all substitute registry passed .start = ended at ih ⊢
    cases ih with
    | failed bad =>
      obtain ⟨turn, ht, hbad⟩ := bad
      refine .failed ⟨turn, ?_, hbad⟩
      rw [List.reverse_concat]
      exact mem_turns_cons block ht
    | complete follows ok =>
      cases block with
      | modifier invocation =>
        exact .complete (follows.invoke invocation) (by simpa [turns] using ok)
      | text content => exact follows.ended_text ok content

/-- After a render without error all turns were taken. -/
theorem follows_of_render {r : Renderer} {suppress : Bool} {document : Document} {store : Store}
    {rendering : Rendering} (h : (r.render suppress document store).result = .ok rendering) :
    let lookup := (dispatchUnless suppress document.directives store).store.get?
    ∃ w, Follows (r.substitute lookup) (r.modifiers lookup) document.blocks w ∧
      (∀ turn ∈ turns (r.substitute lookup) (r.modifiers lookup) document.blocks.reverse,
        turn.left.fault = none) ∧
      rendering.markdown = w.markdown := by
  intro lookup
  have hended : Ended (r.substitute lookup) (r.modifiers lookup) document.blocks
      (r.walk lookup document.blocks) := all_ended document.blocks
  cases herror : (dispatchUnless suppress document.directives store).error with
  | some e => simp [Renderer.render, herror] at h
  | none =>
    rcases hwalk : r.walk lookup document.blocks with ⟨w, _ | e⟩
    · rw [hwalk] at hended
      cases hended with
      | complete follows ok =>
        refine ⟨w, follows, ok, ?_⟩
        simp only [Renderer.render, herror, lookup, hwalk, Except.ok.injEq] at h
        rw [← h]
    · simp [Renderer.render, herror, lookup, hwalk] at h

end StoryPress.Story.Piece
