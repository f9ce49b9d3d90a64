import StoryPress.Command.Press

/-! A render first dispatches the directives and then walks the blocks. The store is left as the
first phase leaves it, whatever the blocks become and also if a handler fails; and the first phase
itself sees no more of the store than the values in it. The second phase knows of the first nothing
but the values that it left. -/
namespace StoryPress.Story

open StoryPress.Json (Fields Lookup Value)

/-- Every variable has the same value in two stores, whatever was written to them before. -/
def SameValues (store store' : Store) : Prop := ∀ name, store.get? name = store'.get? name

variable {store store' : Store}

namespace SameValues

theorem get?_eq (h : SameValues store store') : store.get? = store'.get? := funext h

theorem set (h : SameValues store store') (name : String) (value : Value) :
    SameValues (store.set name value) (store'.set name value) := by
  intro other
  rw [Store.get?_set, Store.get?_set, h other]

end SameValues

/-- What was done to two stores left the same values and added the same writes. -/
structure SameEffect (store store' left left' : Store) : Prop where
  values : SameValues left left'
  added : ∃ writes, left.writes = store.writes ++ writes ∧ left'.writes = store'.writes ++ writes

namespace SameEffect

theorem refl (h : SameValues store store') : SameEffect store store' store store' :=
  ⟨h, [], (List.append_nil _).symm, (List.append_nil _).symm⟩

theorem of_set {name : String} {value : Value} {left left' : Store}
    (h : SameEffect (store.set name value) (store'.set name value) left left') :
    SameEffect store store' left left' := by
  obtain ⟨hvalues, writes, hwrites, hwrites'⟩ := h
  refine ⟨hvalues, (name, value) :: writes, ?_, ?_⟩
  · rw [hwrites, Store.writes_set, List.append_assoc, List.singleton_append]
  · rw [hwrites', Store.writes_set, List.append_assoc, List.singleton_append]

end SameEffect

/-- Two dispatches did the same to two stores, by the same calls and with the same end. -/
structure SameDispatch (store store' : Store) (ended ended' : Dispatched) : Prop where
  effect : SameEffect store store' ended.store ended'.store
  calls : ended.calls = ended'.calls
  error : ended.error = ended'.error

theorem SameDispatch.refl (h : SameValues store store') (calls : List Directive.Call)
    (error : Option RenderError) :
    SameDispatch store store' ⟨store, calls, error⟩ ⟨store', calls, error⟩ :=
  ⟨.refl h, rfl, rfl⟩

/-- Directives see the values of a store and not what was written to it. -/
theorem dispatch_sameValues (directives : List Directive) (h : SameValues store store') :
    SameDispatch store store' (dispatch directives store) (dispatch directives store') := by
  induction directives generalizing store store' with
  | nil => exact .refl h [] none
  | cons d rest ih =>
    rw [dispatch, dispatch, ← h.get?_eq]
    rcases d.run store.get? with ⟨calls, e | _ | value⟩
    · exact .refl h calls (some e)
    · obtain ⟨heffect, hcalls, herror⟩ := ih h
      exact ⟨heffect, congrArg (calls ++ ·) hcalls, herror⟩
    · obtain ⟨heffect, hcalls, herror⟩ := ih (h.set d.name value)
      exact ⟨heffect.of_set, congrArg (calls ++ ·) hcalls, herror⟩

theorem dispatchUnless_sameValues (suppress : Bool) (directives : List Directive)
    (h : SameValues store store') :
    SameDispatch store store' (dispatchUnless suppress directives store)
      (dispatchUnless suppress directives store') := by
  cases suppress with
  | true => exact .refl h [] none
  | false => exact dispatch_sameValues directives h

namespace Renderer

/-- What the blocks become where variables have these values. -/
def page (r : Renderer) (lookup : Lookup) (blocks : List Block) : Except RenderError Rendering :=
  match r.walk lookup blocks with
  | (_, some e) => .error e
  | (w, none) => .ok ⟨r.html w.markdown, w.markdown, w.warnings⟩

theorem calls_render (r : Renderer) (suppress : Bool) (document : Document) (store : Store) :
    (r.render suppress document store).calls =
      (dispatchUnless suppress document.directives store).calls := by
  simp only [render]
  split <;> rfl

/-- Once the directives are dispatched, their values are all that matters. -/
theorem render_of_dispatched {suppress : Bool} {document : Document}
    (h : (dispatchUnless suppress document.directives store).error = none) (r : Renderer) :
    let values := (r.render suppress document store).store.get?
    (r.render suppress document store).result = r.page values document.blocks ∧
      (r.render suppress document store).runs = (r.walk values document.blocks).1.runs := by
  intro values
  have hvalues : values = (dispatchUnless suppress document.directives store).store.get? :=
    congrArg Store.get? (store_render r suppress document store)
  rw [hvalues]
  simp only [render, page, h]
  rcases r.walk (dispatchUnless suppress document.directives store).store.get? document.blocks
    with ⟨w, _ | e⟩ <;> simp

/-- A render whose directives fail has not come to the blocks. -/
theorem render_of_failure {suppress : Bool} {document : Document} {e : RenderError}
    (h : (dispatchUnless suppress document.directives store).error = some e) (r : Renderer) :
    (r.render suppress document store).result = .error e ∧
      (r.render suppress document store).runs = [] := by
  simp [render, h]

theorem dispatched_of_ok {r : Renderer} {suppress : Bool} {document : Document}
    {rendering : Rendering} (h : (r.render suppress document store).result = .ok rendering) :
    (dispatchUnless suppress document.directives store).error = none := by
  cases he : (dispatchUnless suppress document.directives store).error with
  | none => rfl
  | some e =>
    rw [(render_of_failure he r).1] at h
    cases h

/-- The blocks, and what renders them, have no part in what becomes of the store. -/
theorem render_sameEffect {document document' : Document}
    (hdirectives : document.directives = document'.directives) (h : SameValues store store')
    (r r' : Renderer) (suppress : Bool) :
    SameEffect store store' (r.render suppress document store).store
      (r'.render suppress document' store').store := by
  rw [store_render, store_render, ← hdirectives]
  exact (dispatchUnless_sameValues suppress document.directives h).effect

/-- The directives have no part in what becomes of the blocks, but for the values they leave and
for the failure that keeps a render from the blocks. -/
theorem render_sameBlocks {suppress suppress' : Bool} {document document' : Document} {r : Renderer}
    (hblocks : document.blocks = document'.blocks)
    (hvalues : SameValues (r.render suppress document store).store
      (r.render suppress' document' store').store)
    (herror : (dispatchUnless suppress document.directives store).error =
      (dispatchUnless suppress' document'.directives store').error) :
    (r.render suppress document store).result = (r.render suppress' document' store').result ∧
      (r.render suppress document store).runs = (r.render suppress' document' store').runs := by
  cases he : (dispatchUnless suppress document.directives store).error with
  | some e =>
    obtain ⟨hresult, hruns⟩ := render_of_failure he r
    obtain ⟨hresult', hruns'⟩ := render_of_failure (herror ▸ he) r
    exact ⟨hresult.trans hresult'.symm, hruns.trans hruns'.symm⟩
  | none =>
    obtain ⟨hresult, hruns⟩ := render_of_dispatched he r
    obtain ⟨hresult', hruns'⟩ := render_of_dispatched (herror ▸ he) r
    rw [hresult, hresult', hruns, hruns', hvalues.get?_eq, hblocks]
    exact ⟨rfl, rfl⟩

end Renderer

/-- What a render leaves in the store is told by the directives, suppression and the values before,
with whatever renderer and blocks and however the render ends. What becomes of the blocks is told
by the values that the directives leave, however they come by them. -/
theorem phases_do_not_interfere :
    (∀ (r r' : Renderer) (suppress : Bool) (document document' : Document) (store store' : Store),
      document.directives = document'.directives →
      ((r.render suppress document store).store = (r'.render suppress document' store).store) ∧
      (SameValues store store' →
        SameEffect store store' (r.render suppress document store).store
          (r'.render suppress document' store').store ∧
        (r.render suppress document store).calls = (r'.render suppress document' store').calls)) ∧
    ∀ (r : Renderer) (suppress suppress' : Bool) (document document' : Document)
      (store store' : Store),
      document.blocks = document'.blocks →
      let rendered := r.render suppress document store
      let rendered' := r.render suppress' document' store'
      SameValues rendered.store rendered'.store →
      (∀ rendering rendering', rendered.result = .ok rendering →
        rendered'.result = .ok rendering' → rendering = rendering') ∧
      ((dispatchUnless suppress document.directives store).error =
          (dispatchUnless suppress' document'.directives store').error →
        rendered.result = rendered'.result ∧ rendered.runs = rendered'.runs) := by
  constructor
  · intro r r' suppress document document' store store' hdirectives
    refine ⟨?_, fun h => ⟨r.render_sameEffect hdirectives h r' suppress, ?_⟩⟩
    · rw [Renderer.store_render, Renderer.store_render, hdirectives]
    · rw [Renderer.calls_render, Renderer.calls_render, ← hdirectives]
      exact (dispatchUnless_sameValues suppress document.directives h).calls
  · intro r suppress suppress' document document' store store' hblocks rendered rendered' hvalues
    refine ⟨?_, Renderer.render_sameBlocks hblocks hvalues⟩
    intro rendering rendering' h h'
    have herror := (Renderer.dispatched_of_ok h).trans (Renderer.dispatched_of_ok h').symm
    have hresult : rendered.result = rendered'.result :=
      (Renderer.render_sameBlocks hblocks hvalues herror).1
    exact Except.ok.inj ((h.symm.trans hresult).trans h')

/-- A failing test does not take back the gold, and gold that was there before shows as gold that a
directive gives. -/
theorem gold_given_or_found :
    let r := Command.renderer .default []
    let gold : Value := .number (.int 2)
    let document : Document :=
      ⟨[.constant "gold" gold], [.modifier "if gold == 2", .text "Gold: {gold}"]⟩
    let failing : Document := ⟨[.constant "gold" gold], [.modifier "if (", .text "Gold"]⟩
    let given := r.render false document (.ofFields [])
    let failed := r.render false failing (.ofFields [])
    let found := r.render true ⟨[], document.blocks⟩ (.ofFields [("gold", gold)])
    failed.result.toOption = none ∧ failed.store = given.store ∧
      given.store.writes = [("gold", gold)] ∧
      found.result = given.result ∧
      found.result.toOption.map (·.markdown) = some "\n\nGold: 2" := by
  intro r gold document failing given failed found
  obtain ⟨hstore, hblocks⟩ := phases_do_not_interfere
  have hgiven : given.store = .mk [("gold", gold)] [("gold", gold)] :=
    Renderer.store_render r false document (.ofFields [])
  have hfound : found.store = .mk [("gold", gold)] [] :=
    Renderer.store_render r true ⟨[], document.blocks⟩ (.ofFields [("gold", gold)])
  have hvalues : SameValues found.store given.store := by
    rw [hgiven, hfound]
    exact fun _ => rfl
  refine ⟨by decide +kernel, ?_, congrArg Store.writes hgiven, ?_, by decide +kernel⟩
  · exact (hstore r r false failing document (.ofFields []) (.ofFields []) rfl).1
  · exact ((hblocks r true false ⟨[], document.blocks⟩ document _ _ rfl hvalues).2 rfl).1

end StoryPress.Story
