import StoryPress.Command.Press
import StoryPress.Proofs.Story.Arming

namespace StoryPress.Modifier.Registry

variable {registry : Registry} {invocation : String}

theorem mem_accepting {index : Nat} :
    index ∈ registry.accepting invocation ↔
      ∃ m, registry[index]? = some m ∧ m.accepts invocation = true := by
  simp only [accepting, List.mem_map, List.mem_filter, Prod.exists]
  constructor
  · rintro ⟨m, i, ⟨hmem, haccepts⟩, rfl⟩
    exact ⟨m, List.mem_zipIdx_iff_getElem?.mp hmem, haccepts⟩
  · rintro ⟨m, hget, haccepts⟩
    exact ⟨m, index, ⟨List.mem_zipIdx_iff_getElem?.mpr hget, haccepts⟩, rfl⟩

theorem resolve_ne_ambiguous (h : (registry.accepting invocation).length ≤ 1)
    (indices : List Nat) : registry.resolve invocation ≠ .ambiguous indices := by
  unfold resolve
  rcases hc : registry.accepting invocation with _ | ⟨i, _ | ⟨j, more⟩⟩
  · exact Resolution.noConfusion
  · exact Resolution.noConfusion
  · simp [hc] at h

theorem resolve_eq_unique_iff (h : (registry.accepting invocation).length ≤ 1) {index : Nat} :
    registry.resolve invocation = .unique index ↔ index ∈ registry.accepting invocation := by
  unfold resolve
  rcases hc : registry.accepting invocation with _ | ⟨i, _ | ⟨j, more⟩⟩
  · simp
  · simp [eq_comm]
  · simp [hc] at h

end StoryPress.Modifier.Registry

namespace StoryPress.Story.Walk

open StoryPress.Modifier (Registry)

variable (substitute : String → String) {registry : Registry}

/-- One block gives no warning unless it is an ambiguous invocation. -/
theorem warnings_step
    (h : ∀ invocation indices, registry.resolve invocation ≠ .ambiguous indices) (w : Walk)
    (block : Block) : (w.step substitute registry block).1.warnings = w.warnings := by
  cases block with
  | text content =>
    simp only [step]
    split <;> rfl
  | modifier invocation =>
    simp only [step, invoke]
    split
    · split <;> rfl
    · rfl
    · next indices hresolve => exact absurd hresolve (h invocation indices)

theorem warnings_all
    (h : ∀ invocation indices, registry.resolve invocation ≠ .ambiguous indices)
    (blocks : List Block) (w : Walk) :
    (all substitute registry blocks w).1.warnings = w.warnings := by
  induction blocks generalizing w with
  | nil => rfl
  | cons block rest ih =>
    have hstep := warnings_step substitute h w block
    rw [all]
    rcases hnext : w.step substitute registry block with ⟨next, _ | e⟩
    · rw [hnext] at hstep
      exact (ih next).trans hstep
    · rw [hnext] at hstep
      exact hstep

end StoryPress.Story.Walk

namespace StoryPress.Command

open StoryPress.Config (Settings)
open StoryPress.Json (Fields Lookup)
open StoryPress.Story

theorem resolve_builtinRegistry (s : Settings) (lookup : Lookup) (invocation : String)
    (indices : List Nat) :
    (builtinRegistry s lookup).resolve invocation ≠ .ambiguous indices := by
  unfold builtinRegistry
  split
  · have hone := Piece.length_accepting_builtin_le_one lookup s.disabled invocation
    exact Modifier.Registry.resolve_ne_ambiguous hone indices
  · exact Modifier.Resolution.noConfusion

/-- A rendering has the warnings of its block pass. -/
theorem warnings_render {r : Renderer} {suppress : Bool} {document : Document} {store : Store}
    {rendering : Rendering} (h : (r.render suppress document store).result = .ok rendering) :
    let lookup := (dispatchUnless suppress document.directives store).store.get?
    rendering.warnings = (r.walk lookup document.blocks).1.warnings := by
  intro lookup
  cases herror : (dispatchUnless suppress document.directives store).error with
  | some e => simp [Renderer.render, herror] at h
  | none =>
    rcases hwalk : r.walk lookup document.blocks with ⟨w, _ | e⟩
    · simp only [Renderer.render, herror, lookup, hwalk, Except.ok.injEq] at h
      rw [← h]
    · simp [Renderer.render, herror, lookup, hwalk] at h

/-- At most one built-in modifier accepts an invocation, whichever are turned off, and then the
invocation is resolved to it. So no document file that is rendered gives a warning. -/
theorem builtins_never_collide :
    (∀ (lookup : Lookup) (disabled : List String) (invocation : String),
      let registry := Modifier.Builtin.registry lookup disabled
      (registry.accepting invocation).length ≤ 1 ∧
      (∀ indices, registry.resolve invocation ≠ .ambiguous indices) ∧
      ∀ index, registry.resolve invocation = .unique index ↔
        ∃ m, registry[index]? = some m ∧ m.accepts invocation = true) ∧
    ∀ (s : Settings) (state inserts : Fields) (json : String) (rendering : Rendering)
      (store : Store), press s state inserts json = .ok (rendering, store) →
      rendering.warnings = [] := by
  refine ⟨fun lookup disabled invocation => ?_, ?_⟩
  · have hone := Piece.length_accepting_builtin_le_one lookup disabled invocation
    refine ⟨hone, Modifier.Registry.resolve_ne_ambiguous hone, fun index => ?_⟩
    rw [Modifier.Registry.resolve_eq_unique_iff hone, Modifier.Registry.mem_accepting]
  · intro s state inserts json rendering store hpress
    cases hread : Document.read json with
    | error e =>
      rw [press_of_read_error hread] at hpress
      cases hpress
    | ok document =>
      rw [press_of_read hread] at hpress
      cases hresult : ((renderer s inserts).render s.suppressVariables document
          (.ofFields state)).result with
      | error e => simp [hresult] at hpress
      | ok rendered =>
        obtain ⟨rfl, -⟩ : rendered = rendering ∧ _ := by simpa [hresult] using hpress
        rw [warnings_render hresult]
        exact Walk.warnings_all _ (resolve_builtinRegistry s _) document.blocks .start

/-- Invocations in capitals and with blanks around them. -/
theorem shouted_invocations_without_warnings :
    let json := "[[],[[\"modifier\",\" ALIGN  Left \"],[\"modifier\",\"Unless x\"]," ++
      "[\"text\",\"Body\"]]]"
    ∃ rendering store, press .default [] [] json = .ok (rendering, store) ∧
      rendering.markdown = "\n\n<div style=\"text-align: left\">\n\nBody\n\n</div>" ∧
      rendering.warnings = [] := by
  intro json
  have hmarkdown : (press .default [] [] json).toOption.map (fun pressed => pressed.1.markdown) =
      some "\n\n<div style=\"text-align: left\">\n\nBody\n\n</div>" := by
    decide +kernel
  cases hpress : press .default [] [] json with
  | error e => simp [hpress, Except.toOption] at hmarkdown
  | ok pressed =>
    obtain ⟨rendering, store⟩ := pressed
    rw [hpress] at hmarkdown
    exact ⟨rendering, store, rfl, Option.some.inj hmarkdown,
      builtins_never_collide.2 .default [] [] json rendering store hpress⟩

end StoryPress.Command
