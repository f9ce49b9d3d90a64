import StoryPress.Proofs.Modifier.Faults
import StoryPress.Proofs.Story.Hiding

namespace StoryPress.Story

open StoryPress.Json (Lookup)
open StoryPress.Modifier (Registry)
open StoryPress.Modifier.Builtin (Call Name branch? enabled isDisabled malformed? ofName)

def Block.isText : Block → Bool
  | .text _ => true
  | .modifier _ => false

namespace Piece

/-- The first error among the invocations that a text block comes after. -/
def firstError? (error? : String → Option RenderError) : List Block → Option RenderError
  | [] => none
  | .text _ :: rest => firstError? error? rest
  | .modifier invocation :: rest =>
    if rest.any Block.isText then (error? invocation).or (firstError? error? rest) else none

variable {error? : String → Option RenderError}

theorem firstError?_of_no_text {blocks : List Block} (h : blocks.any Block.isText = false) :
    firstError? error? blocks = none := by
  cases blocks with
  | nil => rfl
  | cons block rest =>
    rw [List.any_cons, Bool.or_eq_false_iff] at h
    cases block with
    | text content => cases h.1
    | modifier invocation => rw [firstError?, h.2, if_neg Bool.false_ne_true]

theorem ite_firstError? (blocks : List Block) :
    (if blocks.any Block.isText then firstError? error? blocks else none) =
      firstError? error? blocks := by
  cases htext : blocks.any Block.isText with
  | true => rfl
  | false => exact (firstError?_of_no_text htext).symm

theorem firstError?_eq_some_iff {blocks : List Block} {e : RenderError} :
    firstError? error? blocks = some e ↔ ∃ before invocation after,
      blocks = before ++ .modifier invocation :: after ∧ error? invocation = some e ∧
        after.any Block.isText = true ∧
        ∀ earlier, .modifier earlier ∈ before → error? earlier = none := by
  induction blocks with
  | nil => simp [firstError?]
  | cons block rest ih =>
    constructor
    · intro h
      cases block with
      | text content =>
        obtain ⟨before, invocation, after, rfl, herror, htext, hearlier⟩ := ih.mp h
        refine ⟨.text content :: before, invocation, after, rfl, herror, htext, ?_⟩
        simpa using hearlier
      | modifier first =>
        cases htext : rest.any Block.isText with
        | false => simp [firstError?, htext] at h
        | true =>
          rw [firstError?, htext, if_pos rfl, Option.or_eq_some_iff] at h
          rcases h with h | ⟨hnone, h⟩
          · exact ⟨[], first, rest, rfl, h, htext, by simp⟩
          · obtain ⟨before, invocation, after, rfl, herror, hafter, hearlier⟩ := ih.mp h
            refine ⟨.modifier first :: before, invocation, after, rfl, herror, hafter, ?_⟩
            simpa [hnone] using hearlier
    · rintro ⟨before, invocation, after, hsplit, herror, htext, hearlier⟩
      cases before with
      | nil =>
        obtain ⟨rfl, rfl⟩ := List.cons.inj hsplit
        simp [firstError?, htext, herror]
      | cons first before =>
        obtain ⟨rfl, rfl⟩ : block = first ∧ rest = before ++ .modifier invocation :: after :=
          List.cons.inj hsplit
        have hrest := ih.mpr ⟨before, invocation, after, rfl, herror, htext, fun earlier hmem =>
          hearlier earlier (List.mem_cons_of_mem _ hmem)⟩
        cases block with
        | text content => exact hrest
        | modifier first =>
          have hnone := hearlier first List.mem_cons_self
          simp [firstError?, htext, hnone, hrest]

/-- Every invocation arms a call of a built-in modifier that accepts it, or nothing. -/
structure Arms (lookup : Lookup) (registry : Registry) (call? : String → Option Call) : Prop where
  arming : ∀ invocation, arming registry invocation = (call? invocation).map (Call.arm lookup)
  accepted : ∀ invocation call, call? invocation = some call → call.Accepted lookup

variable {lookup : Lookup} {registry : Registry} {call? : String → Option Call}

theorem error_step_text (substitute : String → String) (registry : Registry) {w : Walk}
    {calls : List Call} (harmed : w.window.armed = calls.map (Call.arm lookup))
    (haccepted : ∀ call ∈ calls, call.Accepted lookup) (content : String) :
    (w.step substitute registry (.text content)).2 = calls.findSome? Call.error? ∧
      (w.step substitute registry (.text content)).1.window.armed = [] := by
  have herror := Modifier.Builtin.error_applyAll haccepted (.ofText (substitute content))
    w.window.slots
  rw [← harmed] at herror
  rw [← herror]
  simp only [Walk.step, Modifier.Window.apply]
  cases (Modifier.applyAll w.window.armed (.ofText (substitute content)) w.window.slots).error with
  | none => exact ⟨rfl, rfl⟩
  | some e => exact ⟨rfl, rfl⟩

theorem Arms.invoke (h : Arms lookup registry call?) {w : Walk} {calls : List Call}
    (harmed : w.window.armed = calls.map (Call.arm lookup)) (invocation : String) :
    (w.invoke registry invocation).window.armed =
      (calls ++ (call? invocation).toList).map (Call.arm lookup) := by
  rw [invoke_eq, h.arming]
  cases call? invocation <;> simp [harmed, Modifier.Window.activate]

/-- A pass fails with the first error of the calls that are armed, then of those to come, if there
is a text block to run them on. -/
theorem Arms.error_all (h : Arms lookup registry call?) (substitute : String → String)
    (blocks : List Block) {w : Walk} {calls : List Call}
    (harmed : w.window.armed = calls.map (Call.arm lookup))
    (haccepted : ∀ call ∈ calls, call.Accepted lookup) :
    (Walk.all substitute registry blocks w).2 =
      if blocks.any Block.isText then
        (calls.findSome? Call.error?).or
          (firstError? (fun invocation => (call? invocation).bind Call.error?) blocks)
      else none := by
  induction blocks generalizing w calls with
  | nil => rfl
  | cons block rest ih =>
    cases block with
    | text content =>
      obtain ⟨herror, hempty⟩ := error_step_text substitute registry harmed haccepted content
      have hlater : ∀ next : Walk, next.window.armed = [] →
          (Walk.all substitute registry rest next).2 =
            firstError? (fun invocation => (call? invocation).bind Call.error?) rest := by
        intro next hnext
        have hnone : next.window.armed = ([] : List Call).map (Call.arm lookup) := hnext
        rw [ih hnone (by simp), List.findSome?_nil, Option.none_or, ite_firstError?]
      have hany : (Block.text content :: rest).any Block.isText = true := by simp [Block.isText]
      rw [Walk.all, if_pos hany, ← herror, firstError?]
      rcases hstep : w.step substitute registry (.text content) with ⟨next, _ | e⟩
      · rw [hstep] at hempty
        exact hlater next hempty
      · rfl
    | modifier invocation =>
      have hcalls : ∀ call ∈ calls ++ (call? invocation).toList, call.Accepted lookup := by
        intro call hmem
        rcases List.mem_append.mp hmem with hmem | hmem
        · exact haccepted call hmem
        · exact h.accepted invocation call (Option.mem_toList.mp hmem)
      have hstep : Walk.all substitute registry (.modifier invocation :: rest) w =
          Walk.all substitute registry rest (w.invoke registry invocation) := rfl
      have hany : (Block.modifier invocation :: rest).any Block.isText =
          rest.any Block.isText := by simp [Block.isText]
      rw [hstep, ih (h.invoke harmed invocation) hcalls, hany, firstError?]
      cases htext : rest.any Block.isText with
      | false => rfl
      | true =>
        rw [if_pos rfl, if_pos rfl, if_pos rfl, List.findSome?_append, Option.or_assoc]
        cases call? invocation with
        | none => rfl
        | some call => simp

theorem Arms.error_walk {r : Renderer} (h : Arms lookup (r.modifiers lookup) call?)
    (blocks : List Block) :
    (r.walk lookup blocks).2 =
      firstError? (fun invocation => (call? invocation).bind Call.error?) blocks := by
  have hstart : Walk.start.window.armed = ([] : List Call).map (Call.arm lookup) := rfl
  rw [Renderer.walk, h.error_all _ blocks hstart (by simp), List.findSome?_nil, Option.none_or,
    ite_firstError?]

/-- Invocations that arm something leave the window alone changed. -/
theorem all_arming {trailing : List String}
    (h : ∀ invocation ∈ trailing, (arming registry invocation).isSome = true)
    (substitute : String → String) (w : Walk) :
    ∃ window, Walk.all substitute registry (trailing.map .modifier) w =
      ({ w with window := window }, none) := by
  induction trailing generalizing w with
  | nil => exact ⟨w.window, rfl⟩
  | cons invocation rest ih =>
    obtain ⟨a, harm⟩ := Option.isSome_iff_exists.mp (h invocation List.mem_cons_self)
    have hinvoke : w.invoke registry invocation = { w with window := w.window.activate a } := by
      rw [invoke_eq, harm]
    have hstep : Walk.all substitute registry ((invocation :: rest).map .modifier) w =
        Walk.all substitute registry (rest.map .modifier) (w.invoke registry invocation) := rfl
    obtain ⟨window, hrest⟩ := ih (fun later hlater => h later (List.mem_cons_of_mem _ hlater))
      (w.invoke registry invocation)
    exact ⟨window, by rw [hstep, hrest, hinvoke]⟩

/-- What is armed after the last text block is never run, so it does not show. -/
theorem render_trailing {r : Renderer} {suppress : Bool} {directives : List Directive}
    {store : Store} {trailing : List String}
    (h : ∀ invocation ∈ trailing, (arming
      (r.modifiers (dispatchUnless suppress directives store).store.get?) invocation).isSome = true)
    (body : List Block) :
    r.render suppress ⟨directives, body ++ trailing.map .modifier⟩ store =
      r.render suppress ⟨directives, body⟩ store := by
  unfold Renderer.render
  dsimp only
  cases (dispatchUnless suppress directives store).error with
  | some e => rfl
  | none =>
    simp only [Renderer.walk, Walk.all_append]
    rcases Walk.all (r.substitute (dispatchUnless suppress directives store).store.get?)
      (r.modifiers (dispatchUnless suppress directives store).store.get?) body .start
      with ⟨w, _ | e⟩
    · obtain ⟨window, htrailing⟩ := all_arming h
        (r.substitute (dispatchUnless suppress directives store).store.get?) w
      simp only [htrailing]
    · rfl

theorem call?_eq_some_iff {disabled : List String} {invocation : String} {call : Call} :
    Piece.call? lookup disabled invocation = some call ↔
      ∃ name ∈ enabled disabled, (ofName lookup name).accepts invocation = true ∧
        call = ⟨(enabled disabled).idxOf name, name, invocation⟩ := by
  unfold Piece.call?
  rw [Option.map_eq_some_iff]
  constructor
  · rintro ⟨name, hfind, rfl⟩
    have haccepts := List.find?_some hfind
    exact ⟨name, List.mem_of_find?_eq_some hfind, haccepts, rfl⟩
  · rintro ⟨name, hmem, haccepts, rfl⟩
    refine ⟨name, ?_, rfl⟩
    cases hfind : (enabled disabled).find? fun name => (ofName lookup name).accepts invocation with
    | none => exact absurd haccepts (List.find?_eq_none.mp hfind name hmem)
    | some other =>
      have hother := List.find?_some hfind
      rw [Modifier.Builtin.eq_of_accepts hother haccepts]

theorem arms_builtin (lookup : Lookup) (disabled : List String) :
    Arms lookup (Modifier.Builtin.registry lookup disabled) (Piece.call? lookup disabled) where
  arming := arming_eq
  accepted invocation call hcall := by
    obtain ⟨name, -, haccepts, rfl⟩ := call?_eq_some_iff.mp hcall
    exact haccepts

theorem accepts_of_malformed {invocation : String} {e : Condition.Error}
    (h : malformed? invocation = some e) : (branch? invocation).isSome = true := by
  unfold malformed? at h
  split at h
  · next hbranch => rw [hbranch, Option.isSome_some]
  · cases h

/-- The only errors of built-in modifiers are those of malformed tests. -/
theorem error?_builtin {disabled : List String} {invocation : String} {err : RenderError} :
    (Piece.call? lookup disabled invocation).bind Call.error? = some err ↔
      isDisabled disabled .conditional = false ∧
        ∃ e, malformed? invocation = some e ∧ err = .modifier "conditional" (.condition e) := by
  rw [Option.bind_eq_some_iff]
  constructor
  · rintro ⟨call, hcall, herror⟩
    obtain ⟨name, hmem, -, rfl⟩ := call?_eq_some_iff.mp hcall
    simp only [Call.error?, Name.fault?] at herror
    by_cases hname : name = .conditional
    · subst hname
      rw [if_pos rfl, Option.map_map, Option.map_eq_some_iff] at herror
      obtain ⟨e, hmalformed, rfl⟩ := herror
      have henabled : isDisabled disabled .conditional = false := by
        simpa [enabled] using (List.mem_filter.mp hmem).2
      exact ⟨henabled, e, hmalformed, rfl⟩
    · rw [if_neg hname] at herror
      cases herror
  · rintro ⟨henabled, e, hmalformed, rfl⟩
    have hmem := Verdict.conditional_mem_enabled henabled
    have haccepts : (ofName lookup .conditional).accepts invocation = true :=
      accepts_of_malformed hmalformed
    refine ⟨⟨(enabled disabled).idxOf .conditional, .conditional, invocation⟩,
      call?_eq_some_iff.mpr ⟨.conditional, hmem, haccepts, rfl⟩, ?_⟩
    simp [Call.error?, Name.fault?, hmalformed, Name.text]

end Piece

end StoryPress.Story
