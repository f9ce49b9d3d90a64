import StoryPress.Proofs.Story.Phases

/-! Constant directives write the same list each time, and writing a list again changes no value. So
the blocks of every later render see the values that those of the first one saw, and nothing else is
carried from one render to the next. -/
namespace StoryPress.Story

open StoryPress.Json (Lookup Value)

variable {store store' : Store}

/-- Writing a list again changes no value, also where it writes a name more than once. -/
theorem SameValues.setAll_setAll (store : Store) (writes : List (String × Value)) :
    SameValues ((store.setAll writes).setAll writes) (store.setAll writes) := by
  intro name
  rw [Store.get?_setAll, Store.get?_setAll]
  cases writes.reverse.lookup name <;> rfl

/-- An unconditional directive that gives the same value, or the same fault, on all stores. -/
def Directive.IsConstant (d : Directive) : Prop :=
  d.condition = none ∧ ∃ given, ∀ lookup, d.value lookup = given

namespace Directive.IsConstant

theorem constant (name : String) (value : Value) : (Directive.constant name value).IsConstant :=
  ⟨rfl, .ok value, fun _ => rfl⟩

theorem exists_run {d : Directive} (h : d.IsConstant) : ∃ done, ∀ lookup, d.run lookup = done := by
  obtain ⟨hcondition, given, hgiven⟩ := h
  refine ⟨d.run fun _ => none, fun lookup => ?_⟩
  simp only [run, hcondition, hgiven]

end Directive.IsConstant

/-- On every store a dispatch adds this batch of writes, by these calls and with this end. -/
def Adds (suppress : Bool) (directives : List Directive) (batch : List (String × Value))
    (calls : List Directive.Call) (error : Option RenderError) : Prop :=
  ∀ store, dispatchUnless suppress directives store = ⟨store.setAll batch, calls, error⟩

theorem adds_nothing (directives : List Directive) : Adds true directives [] [] none :=
  fun _ => rfl

theorem exists_adds_of_constant {directives : List Directive}
    (h : ∀ d ∈ directives, d.IsConstant) :
    ∃ batch calls error, Adds false directives batch calls error := by
  induction directives with
  | nil => exact ⟨[], [], none, fun _ => rfl⟩
  | cons d rest ih =>
    obtain ⟨batch, calls, error, hrest⟩ := ih fun d hd => h d (List.mem_cons_of_mem _ hd)
    have hlater (store : Store) : dispatch rest store = ⟨store.setAll batch, calls, error⟩ :=
      hrest store
    obtain ⟨⟨first, e | _ | value⟩, hrun⟩ := (h d List.mem_cons_self).exists_run
    · refine ⟨[], first, some e, fun store => ?_⟩
      simp only [dispatchUnless, dispatch, hrun]
      rfl
    · refine ⟨batch, first ++ calls, error, fun store => ?_⟩
      simp only [dispatchUnless, dispatch, hrun, hlater]
      rfl
    · refine ⟨(d.name, value) :: batch, first ++ calls, error, fun store => ?_⟩
      simp only [dispatchUnless, dispatch, hrun, hlater]
      rfl

/-- Two renders that came to the same result by the same steps and left the same values. -/
structure SameRender (first again : Rendered) : Prop where
  result : again.result = first.result
  calls : again.calls = first.calls
  runs : again.runs = first.runs
  values : SameValues again.store first.store

section

variable {suppress : Bool} {document : Document} {batch : List (String × Value)}
  {calls : List Directive.Call} {error : Option RenderError}

theorem Adds.store_render (h : Adds suppress document.directives batch calls error)
    (r : Renderer) (store : Store) :
    (r.render suppress document store).store = store.setAll batch := by
  rw [Renderer.store_render, h]

/-- The blocks see what a store becomes and not what it was. -/
theorem Adds.render (h : Adds suppress document.directives batch calls error)
    (hvalues : SameValues (store'.setAll batch) (store.setAll batch)) (r : Renderer) :
    SameRender (r.render suppress document store) (r.render suppress document store') := by
  have hleft : SameValues (r.render suppress document store').store
      (r.render suppress document store).store := by
    rw [h.store_render, h.store_render]
    exact hvalues
  have herror : (dispatchUnless suppress document.directives store').error =
      (dispatchUnless suppress document.directives store).error := by
    rw [h, h]
  obtain ⟨hresult, hruns⟩ := Renderer.render_sameBlocks rfl hleft herror
  refine ⟨hresult, ?_, hruns, hleft⟩
  rw [Renderer.calls_render, Renderer.calls_render, h, h]

theorem length_renderTimes (r : Renderer) (suppress : Bool) (document : Document) (n : Nat)
    (store : Store) : (r.renderTimes suppress document n store).length = n := by
  induction n generalizing store with
  | zero => rfl
  | succ n ih => exact congrArg (· + 1) (ih _)

/-- The renders are counted from any store that the batch takes to the values of the first one: the
store itself is one, and the batch leads from one to the next. -/
theorem Adds.renderTimes (h : Adds suppress document.directives batch calls error)
    (r : Renderer) (n : Nat) (hvalues : SameValues (store'.setAll batch) (store.setAll batch))
    (i : Nat) (rendered : Rendered)
    (hrendered : (r.renderTimes suppress document n store')[i]? = some rendered) :
    SameRender (r.render suppress document store) rendered ∧
      rendered.store.writes = store'.writes ++ (List.replicate (i + 1) batch).flatten := by
  induction n generalizing store' i with
  | zero => simp [Renderer.renderTimes] at hrendered
  | succ n ih =>
    rw [Renderer.renderTimes] at hrendered
    cases i with
    | zero =>
      obtain rfl := Option.some.inj hrendered
      refine ⟨h.render hvalues r, ?_⟩
      rw [h.store_render, Store.writes_setAll]
      simp
    | succ i =>
      rw [List.getElem?_cons_succ, h.store_render] at hrendered
      have hagain : SameValues ((store'.setAll batch).setAll batch) (store.setAll batch) :=
        fun name => (SameValues.setAll_setAll store' batch name).trans (hvalues name)
      obtain ⟨hsame, hwrites⟩ := ih hagain i hrendered
      refine ⟨hsame, ?_⟩
      rw [hwrites, Store.writes_setAll, List.append_assoc, List.replicate_succ (n := i + 1),
        List.flatten_cons]

end

/-- Where nothing is dispatched, or only constant directives are, renders on one store all come to
the result of the first one and leave its values, and each adds the same batch of writes. -/
theorem renderTimes_agree (suppress : Bool) (document : Document)
    (h : suppress = true ∨ ∀ d ∈ document.directives, d.IsConstant) :
    ∃ batch, (suppress = true → batch = []) ∧ ∀ (r : Renderer) (store : Store) (n : Nat),
      (r.renderTimes suppress document n store).length = n ∧
      ∀ i rendered, (r.renderTimes suppress document n store)[i]? = some rendered →
        SameRender (r.render suppress document store) rendered ∧
        rendered.store.writes = store.writes ++ (List.replicate (i + 1) batch).flatten := by
  have hadds : ∃ batch calls error, (suppress = true → batch = []) ∧
      Adds suppress document.directives batch calls error := by
    cases suppress with
    | true => exact ⟨[], [], none, fun _ => rfl, adds_nothing document.directives⟩
    | false =>
      obtain ⟨batch, calls, error, hadds⟩ := exists_adds_of_constant (h.resolve_left (by decide))
      exact ⟨batch, calls, error, nofun, hadds⟩
  obtain ⟨batch, calls, error, hsuppressed, hadds⟩ := hadds
  refine ⟨batch, hsuppressed, fun r store n => ⟨length_renderTimes r suppress document n store, ?_⟩⟩
  exact fun i rendered => hadds.renderTimes r n (fun _ => rfl) i rendered

/-- No render hears of the test that the one before it ended with: the first block stays hidden. -/
theorem gold_written_again :
    let r := Command.renderer .default []
    let gold (i : Int) : Value := .number (.int i)
    let document : Document :=
      ⟨[.constant "gold" (gold 1), .constant "gold" (gold 2)],
        [.modifier "else", .text "Poor", .modifier "unless gold == 1", .text "Gold: {gold}"]⟩
    let first := r.render false document (.ofFields [])
    let renders := r.renderTimes false document 3 (.ofFields [])
    renders.length = 3 ∧
      (∀ i rendered, renders[i]? = some rendered → rendered.result = first.result ∧
        rendered.store.writes =
          (List.replicate (i + 1) [("gold", gold 1), ("gold", gold 2)]).flatten) ∧
      first.result.toOption.map (·.markdown) = some "\n\nGold: 2" := by
  intro r gold document first renders
  have hconstant : ∀ d ∈ document.directives, d.IsConstant := by
    simp only [document, List.forall_mem_cons]
    exact ⟨.constant "gold" (gold 1), .constant "gold" (gold 2), nofun⟩
  obtain ⟨batch, -, hagree⟩ := renderTimes_agree false document (.inr hconstant)
  obtain ⟨hlength, hrenders⟩ := hagree r (.ofFields []) 3
  have hbatch : [("gold", gold 1), ("gold", gold 2)] = (List.replicate 1 batch).flatten :=
    (hrenders 0 first rfl).2
  rw [List.replicate_one, List.flatten_singleton] at hbatch
  refine ⟨hlength, fun i rendered hrendered => ?_, by decide +kernel⟩
  obtain ⟨hsame, hwrites⟩ := hrenders i rendered hrendered
  rw [hbatch]
  exact ⟨hsame.result, hwrites⟩

end StoryPress.Story
