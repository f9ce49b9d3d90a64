import StoryPress.Command.Press
import StoryPress.Proofs.Story.Compiled
import StoryPress.Proofs.Story.Failures

namespace StoryPress.Command

open StoryPress.Config (Settings)
open StoryPress.Json (Fields Lookup)
open StoryPress.Modifier.Builtin (Call Name branch? isDisabled malformed? ofName)
open StoryPress.Story

/-- The call that an invocation is under some settings. -/
def call? (s : Settings) (lookup : Lookup) (invocation : String) : Option Call :=
  if s.builtin then Piece.call? lookup s.disabled invocation else none

theorem arms_builtinRegistry (s : Settings) (lookup : Lookup) :
    Piece.Arms lookup (builtinRegistry s lookup) (call? s lookup) := by
  unfold builtinRegistry call?
  cases s.builtin with
  | true => exact Piece.arms_builtin lookup s.disabled
  | false => exact ⟨fun _ => rfl, fun _ _ h => by cases h⟩

/-- Whether tests are evaluated under some settings. -/
def TestsOn (s : Settings) : Prop := s.builtin = true ∧ isDisabled s.disabled .conditional = false

theorem error?_call? {s : Settings} {lookup : Lookup} {invocation : String} {err : RenderError} :
    (call? s lookup invocation).bind Call.error? = some err ↔
      TestsOn s ∧ ∃ e, malformed? invocation = some e ∧
        err = .modifier "conditional" (.condition e) := by
  unfold call? TestsOn
  cases s.builtin with
  | true => simpa using Piece.error?_builtin
  | false => simp

theorem error?_call?_eq_none {s : Settings} (hon : TestsOn s) {lookup : Lookup}
    {invocation : String} :
    (call? s lookup invocation).bind Call.error? = none ↔ malformed? invocation = none := by
  rw [← not_iff_not, ← Ne, ← Ne, Option.ne_none_iff_exists', Option.ne_none_iff_exists']
  constructor
  · rintro ⟨err, herr⟩
    obtain ⟨-, e, he, -⟩ := error?_call?.mp herr
    exact ⟨e, he⟩
  · rintro ⟨e, he⟩
    exact ⟨_, error?_call?.mpr ⟨hon, e, he, rfl⟩⟩

theorem press_error_iff {s : Settings} {state inserts : Fields} {json : String}
    {document : Document} (hread : Document.read json = .ok document) (err : FileError) :
    let lookup := (dispatchUnless s.suppressVariables document.directives
      (.ofFields state)).store.get?
    press s state inserts json = .error err ↔ ∃ e,
      Piece.firstError? (fun invocation => (call? s lookup invocation).bind Call.error?)
        document.blocks = some e ∧ err = .render e := by
  intro lookup
  have hdispatch := error_dispatchUnless (isSafe_of_read hread) s.suppressVariables
    (.ofFields state)
  have harms : Piece.Arms lookup ((renderer s inserts).modifiers lookup) (call? s lookup) :=
    arms_builtinRegistry s lookup
  rw [press_of_read hread, ← harms.error_walk]
  simp only [Renderer.render, hdispatch, lookup]
  rcases (renderer s inserts).walk (dispatchUnless s.suppressVariables document.directives
    (.ofFields state)).store.get? document.blocks with ⟨w, _ | e⟩
  · simp
  · simp [eq_comm]

/-- Where tests are on, a malformed one is armed like any other. -/
theorem arming_of_malformed {s : Settings} (hon : TestsOn s) {invocation : String}
    (h : (malformed? invocation).isSome = true) (lookup : Lookup) :
    (Piece.arming (builtinRegistry s lookup) invocation).isSome = true := by
  obtain ⟨e, he⟩ := Option.isSome_iff_exists.mp h
  have herror : (call? s lookup invocation).bind Call.error? = some _ :=
    error?_call?.mpr ⟨hon, e, he, rfl⟩
  obtain ⟨call, hcall, -⟩ := Option.bind_eq_some_iff.mp herror
  rw [(arms_builtinRegistry s lookup).arming, hcall]
  rfl

/-- A document that was read fails exactly if tests are on and a malformed test has a text block
after it, with the error of the first such test. Directives never fail, an accepted invocation fails
only by being malformed, and malformed tests after the last text block change nothing. -/
theorem press_fails_iff (s : Settings) (state inserts : Fields) (json : String)
    (document : Document) (hread : Document.read json = .ok document) :
    (∀ err, press s state inserts json = .error err ↔
      (s.builtin = true ∧ isDisabled s.disabled .conditional = false) ∧
      ∃ before invocation after e,
        document.blocks = before ++ .modifier invocation :: after ∧
        malformed? invocation = some e ∧ after.any Block.isText = true ∧
        (∀ earlier, .modifier earlier ∈ before → malformed? earlier = none) ∧
        err = .render (.modifier "conditional" (.condition e))) ∧
    (∀ suppress store, (dispatchUnless suppress document.directives store).error = none) ∧
    (∀ lookup name invocation passage slot, (ofName lookup name).accepts invocation = true →
      ((ofName lookup name).handle passage slot invocation).fault =
        if name = .conditional then (malformed? invocation).map .condition else none) ∧
    ∀ (body : List Block) (trailing : List String),
      document.blocks = body ++ trailing.map .modifier →
      s.builtin = true ∧ isDisabled s.disabled .conditional = false →
      (∀ invocation ∈ trailing, (malformed? invocation).isSome = true) →
      (renderer s inserts).render s.suppressVariables document (.ofFields state) =
        (renderer s inserts).render s.suppressVariables ⟨document.directives, body⟩
          (.ofFields state) := by
  refine ⟨fun err => ?_, fun suppress store => ?_, ?_, ?_⟩
  · refine (press_error_iff hread err).trans ?_
    constructor
    · rintro ⟨_, herror, rfl⟩
      obtain ⟨before, invocation, after, hblocks, hinvocation, htext, hearlier⟩ :=
        Piece.firstError?_eq_some_iff.mp herror
      obtain ⟨hon, e, hmalformed, rfl⟩ := error?_call?.mp hinvocation
      refine ⟨hon, before, invocation, after, e, hblocks, hmalformed, htext, ?_, rfl⟩
      intro earlier hmem
      exact (error?_call?_eq_none hon).mp (hearlier earlier hmem)
    · rintro ⟨hon, before, invocation, after, e, hblocks, hmalformed, htext, hearlier, rfl⟩
      refine ⟨_, Piece.firstError?_eq_some_iff.mpr ⟨before, invocation, after, hblocks,
        error?_call?.mpr ⟨hon, e, hmalformed, rfl⟩, htext, ?_⟩, rfl⟩
      intro earlier hmem
      exact (error?_call?_eq_none hon).mpr (hearlier earlier hmem)
  · exact error_dispatchUnless (isSafe_of_read hread) suppress store
  · intro lookup name invocation passage slot haccepts
    exact Modifier.Builtin.fault_handle haccepts passage slot
  · intro body trailing hblocks hon hmalformed
    have hsplit : document = ⟨document.directives, body ++ trailing.map .modifier⟩ := by
      rw [← hblocks]
    rw [hsplit]
    refine Piece.render_trailing (fun invocation hmem => ?_) body
    exact arming_of_malformed hon (hmalformed invocation hmem) _

/-- Of two malformed tests the first is reported, at the text block that comes after it. -/
theorem first_malformed_test_reported :
    let json := "[[[\"gold\",1,\"!rich\"]],[[\"text\",\"Start\"],[\"modifier\",\"if gold >\"]," ++
      "[\"modifier\",\"unless )\"],[\"text\",\"Rich\"],[\"modifier\",\"if (\"]]]"
    (∃ document, Document.read json = .ok document) ∧
      press .default [] [] json =
        .error (.render (.modifier "conditional" (.condition .unexpectedEnd))) := by
  intro json
  have hblocks : (Document.read json).toOption.map Document.blocks =
      some [.text "Start", .modifier "if gold >", .modifier "unless )", .text "Rich",
        .modifier "if ("] := by
    decide +kernel
  cases hread : Document.read json with
  | error e => simp [hread, Except.toOption] at hblocks
  | ok document =>
    have hdocument : document.blocks = [.text "Start"] ++ .modifier "if gold >" ::
        [.modifier "unless )", .text "Rich", .modifier "if ("] := by
      simpa [hread, Except.toOption] using hblocks
    refine ⟨⟨document, rfl⟩, ((press_fails_iff .default [] [] json document hread).1 _).mpr
      ⟨by decide, _, _, _, .unexpectedEnd, hdocument, by decide +kernel, by decide, ?_, rfl⟩⟩
    simp

end StoryPress.Command
