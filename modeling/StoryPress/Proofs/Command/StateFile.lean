import StoryPress.Command.Run
import StoryPress.Proofs.Config.Load
import StoryPress.Proofs.Files.Write
import StoryPress.Proofs.Story.Compiled
import StoryPress.Proofs.Story.Dispatch

namespace StoryPress.Command

open StoryPress.Config (Settings)
open StoryPress.Files (Path Place Tree)
open StoryPress.Json (Fields)
open StoryPress.Story

variable {t : Tree} {a : RenderArguments}

/-- The variables that are kept under a path: none without a path, and none where no file is. -/
def KeptAt (t : Tree) (path : Option Path) (state : Fields) : Prop :=
  match path with
  | none => state = []
  | some file =>
    if t.exists? file then
      ∃ content, t.readText file = .ok content ∧ Json.read? content = some (.object state)
    else state = []

/-- What a render with these arguments reads: the settings that decide where variables are kept and
whether directives are run, the variables kept so far, and the document. -/
structure Sources (t : Tree) (a : RenderArguments) (path : Option Path) (suppress : Bool)
    (state : Fields) (document : Document) : Prop where
  settings : ∃ base, Config.load t a.config .none = .ok base ∧
    path = a.state.or base.settings.statePath ∧
    suppress = (a.noVars || base.settings.suppressVariables)
  state : KeptAt t path state
  document : ∃ json, t.readText a.document = .ok json ∧ Document.read json = .ok document

theorem readObject_ok {path : Path} {fields : Fields} (h : readObject t path = .ok fields) :
    ∃ content, t.readText path = .ok content ∧ Json.read? content = some (.object fields) := by
  obtain ⟨content, hcontent, h⟩ := ok_of_bind_ok h
  refine ⟨content, ok_of_mapError_ok hcontent, ?_⟩
  split at h
  · cases h
  · next found hfound =>
    cases h
    exact hfound
  · cases h

theorem keptAt_of_readState {s : Settings} {state : Fields} (h : readState t s = .ok state) :
    KeptAt t s.statePath state := by
  unfold readState at h
  unfold KeptAt
  split at h
  · next path hpath =>
    rw [hpath]
    split at h
    · next hexists =>
      simp only [hexists, if_true]
      exact readObject_ok h
    · next hexists =>
      simp only [hexists]
      cases h
      rfl
  · next hpath =>
    rw [hpath]
    cases h
    rfl

theorem KeptAt.unique {path : Option Path} {xs ys : Fields} (hx : KeptAt t path xs)
    (hy : KeptAt t path ys) : xs = ys := by
  unfold KeptAt at hx hy
  cases path with
  | none => exact hx.trans hy.symm
  | some file =>
    cases hexists : t.exists? file with
    | false =>
      simp only [hexists] at hx hy
      exact hx.trans hy.symm
    | true =>
      simp only [hexists, if_true] at hx hy
      obtain ⟨content, hcontent, hx⟩ := hx
      obtain ⟨other, hother, hy⟩ := hy
      obtain rfl := Except.ok.inj (hcontent.symm.trans hother)
      exact Json.Value.object.inj (Option.some.inj (hx.symm.trans hy))

theorem Sources.unique {path other : Option Path} {suppress suppress' : Bool}
    {state state' : Fields} {document document' : Document}
    (h : Sources t a path suppress state document)
    (h' : Sources t a other suppress' state' document') :
    path = other ∧ suppress = suppress' ∧ state = state' ∧ document = document' := by
  obtain ⟨base, hbase, rfl, rfl⟩ := h.settings
  obtain ⟨base', hbase', rfl, rfl⟩ := h'.settings
  obtain rfl := Except.ok.inj (hbase.symm.trans hbase')
  obtain ⟨json, hjson, hdocument⟩ := h.document
  obtain ⟨json', hjson', hdocument'⟩ := h'.document
  obtain rfl := Except.ok.inj (hjson.symm.trans hjson')
  exact ⟨rfl, rfl, h.state.unique h'.state, Except.ok.inj (hdocument.symm.trans hdocument')⟩

theorem prepare_ok {p : Prepared} (h : prepare t a = .ok p) :
    (∃ base, Config.load t a.config .none = .ok base ∧
      p.settings.statePath = a.state.or base.settings.statePath ∧
      p.settings.suppressVariables = (a.noVars || base.settings.suppressVariables)) ∧
    KeptAt t p.settings.statePath p.state := by
  obtain ⟨settings, hsettings, h⟩ := ok_of_bind_ok h
  obtain ⟨state, hstate, h⟩ := ok_of_bind_ok h
  obtain ⟨inserts, -, h⟩ := ok_of_bind_ok h
  obtain ⟨loaded, hloaded, hsettings⟩ := ok_of_bind_ok hsettings
  obtain ⟨-, -, hsettings⟩ := ok_of_bind_ok hsettings
  obtain rfl : loaded.settings = settings := Except.ok.inj hsettings
  obtain rfl : (⟨loaded.settings, state, inserts⟩ : Prepared) = p := Except.ok.inj h
  obtain ⟨base, hbase, hoverride⟩ := Config.exists_of_load (ok_of_mapError_ok hloaded)
  refine ⟨⟨base, hbase, ?_, ?_⟩, keptAt_of_readState hstate⟩
  · rw [hoverride]
    rfl
  · rw [hoverride]
    cases a.noVars <;> rfl

theorem renderFile_ok {path : Path} {p : Prepared} {rendering : Rendering} {store : Store}
    (h : renderFile t path p = .ok (rendering, store)) :
    ∃ json document, t.readText path = .ok json ∧ Document.read json = .ok document ∧
      store = (dispatchUnless p.settings.suppressVariables document.directives
        (.ofFields p.state)).store := by
  obtain ⟨json, hjson, h⟩ := ok_of_bind_ok h
  have hpress := ok_of_mapError_ok h
  cases hread : Document.read json with
  | error e =>
    rw [press_of_read_error hread] at hpress
    cases hpress
  | ok document =>
    refine ⟨json, document, ok_of_mapError_ok hjson, hread, ?_⟩
    rw [press_of_read hread] at hpress
    split at hpress
    · cases hpress
    · cases hpress
      exact Renderer.store_render _ _ _ _

theorem store_of_read {json : String} {document : Document}
    (hread : Document.read json = .ok document) (seed : Store) :
    (dispatchUnless false document.directives seed).store =
      storeAfter document.directives seed :=
  store_dispatch (error_dispatchUnless (isSafe_of_read hread) false seed)

/-- A render fails and leaves the disk, or it succeeds and leaves what is written to its target. -/
theorem render_cases (t : Tree) (a : RenderArguments) :
    (render t a).code = 1 ∧ (render t a).tree = t ∨
      (render t a).code = 0 ∧ ∃ p rendering store, prepare t a = .ok p ∧
        renderFile t a.document p = .ok (rendering, store) ∧
        match stateTarget p.settings with
        | none => (render t a).tree = t
        | some path => t.writeText path (stateText store) = .ok (render t a).tree := by
  cases hprepare : prepare t a with
  | error e => exact .inl (by simp only [render, hprepare, and_self])
  | ok p =>
    cases hfile : renderFile t a.document p with
    | error e => exact .inl (by simp only [render, hprepare, hfile, and_self])
    | ok rendered =>
      obtain ⟨rendering, store⟩ := rendered
      cases htarget : stateTarget p.settings with
      | none =>
        refine .inr ⟨by simp only [render, hprepare, hfile, htarget], p, rendering, store, rfl,
          hfile, ?_⟩
        simp only [render, hprepare, hfile, htarget]
      | some path =>
        cases hwrite : t.writeText path (stateText store) with
        | error fault =>
          exact .inl (by simp only [render, hprepare, hfile, htarget, hwrite, and_self])
        | ok written =>
          refine .inr ⟨by simp only [render, hprepare, hfile, htarget, hwrite], p, rendering,
            store, rfl, hfile, ?_⟩
          simp only [render, hprepare, hfile, htarget, hwrite]

theorem run_of_render {arguments : List String}
    (h : Request.read? arguments = some (.render a)) : run t arguments = render t a := by
  simp only [run, h]

theorem tree_run_of_failure {arguments : List String} (h : (run t arguments).code = 1) :
    (run t arguments).tree = t := by
  unfold run at h ⊢
  split at h
  · rfl
  · rfl
  · rfl
  · next config hrequest =>
    unfold modifiers
    split <;> rfl
  · next a hrequest =>
    rcases render_cases t a with ⟨-, htree⟩ | ⟨hcode, -⟩
    · exact htree
    · rw [hcode] at h
      cases h

/-- The text that directives leave of the variables in their file. -/
def savedText (directives : List Directive) (state : Fields) : String :=
  stateText (storeAfter directives (.ofFields state))

theorem exists_sources (h : (render t a).code = 0) :
    ∃ path suppress state document, Sources t a path suppress state document ∧
      (path = none ∨ suppress = true → (render t a).tree = t) ∧
      ∀ file, path = some file → suppress = false →
        t.writeText file (savedText document.directives state) = .ok (render t a).tree := by
  obtain ⟨hcode, -⟩ | ⟨-, p, rendering, store, hprepare, hfile, htarget⟩ := render_cases t a
  · rw [h] at hcode
    cases hcode
  obtain ⟨hsettings, hstate⟩ := prepare_ok hprepare
  obtain ⟨json, document, hjson, hread, rfl⟩ := renderFile_ok hfile
  refine ⟨p.settings.statePath, p.settings.suppressVariables, p.state, document,
    ⟨hsettings, hstate, json, hjson, hread⟩, fun hnone => ?_, fun file hpath hsuppress => ?_⟩
  · have hno : stateTarget p.settings = none := by
      rcases hnone with hnone | hnone <;> simp [stateTarget, hnone]
    rwa [hno] at htarget
  · have hsome : stateTarget p.settings = some file := by simp [stateTarget, hsuppress, hpath]
    rwa [hsome, hsuppress, store_of_read hread] at htarget

/-- What a successful render leaves under the path of the variables, given what it read. -/
theorem readText_of_sources {file : Path} {state : Fields} {document : Document}
    (hsources : Sources t a (some file) false state document) (h : (render t a).code = 0) :
    (render t a).tree.readText file = .ok (savedText document.directives state) := by
  obtain ⟨path, suppress, state', document', hsources', -, hwrite⟩ := exists_sources h
  obtain ⟨rfl, rfl, rfl, rfl⟩ := hsources.unique hsources'
  exact Tree.readText_of_writeText (hwrite file rfl rfl)

/-- A text that reads back as an object is kept as that object and nothing else. -/
theorem keptAt_iff_of_readText {file : Path} {content : String} {fields values : Fields}
    (h : t.readText file = .ok content) (hread : Json.read? content = some (.object fields)) :
    KeptAt t (some file) values ↔ values = fields := by
  have hkept : KeptAt t (some file) fields := by
    simp only [KeptAt, Tree.exists_of_readText h, if_true]
    exact ⟨content, h, hread⟩
  refine ⟨fun hvalues => hvalues.unique hkept, ?_⟩
  rintro rfl
  exact hkept

/-- A run that fails leaves the disk as it was. A render that succeeds changes at most the file that
keeps the variables: not at all without such a file or without directives, and else to the variables
read at its start under the writes of the directives that fired, the last one on top. If that text
reads back as it was meant, whoever reads it starts from these values. Nothing but the variables
read and the directives has a part in the text. -/
theorem only_state_file_changes :
    (∀ (t : Tree) (arguments : List String),
      (run t arguments).code = 1 → (run t arguments).tree = t) ∧
    (∀ (t : Tree) (arguments : List String) (a : RenderArguments),
      Request.read? arguments = some (.render a) → (run t arguments).code = 0 →
      let left := (run t arguments).tree
      ∃ path suppress state document, Sources t a path suppress state document ∧
        (path = none ∨ suppress = true → left = t) ∧
        ∀ file, path = some file → suppress = false →
          let final := storeAfter document.directives (.ofFields state)
          (∃ place, t.LeadsTo file place ∧ t.WrittenAt place (stateText final) left) ∧
          left.readText file = .ok (stateText final) ∧
          (∀ name, final.get? name =
            ((fired document.directives (.ofFields state)).reverse.lookup name).or
              (state.get? name)) ∧
          (Json.read? (stateText final) = some (.object final.values) →
            ∀ (later : Tree) other, later.readText other = .ok (stateText final) →
              ∀ values, KeptAt later (some other) values ↔ values = final.values)) ∧
    ∀ (t t' : Tree) (arguments arguments' : List String) (a a' : RenderArguments)
      (file file' : Path) (state : Fields) (document document' : Document),
      Request.read? arguments = some (.render a) →
      Request.read? arguments' = some (.render a') →
      (run t arguments).code = 0 → (run t' arguments').code = 0 →
      Sources t a (some file) false state document →
      Sources t' a' (some file') false state document' →
      document.directives = document'.directives →
      (run t arguments).tree.readText file = (run t' arguments').tree.readText file' := by
  refine ⟨fun t arguments => tree_run_of_failure, fun t arguments a hrequest hcode => ?_, ?_⟩
  · rw [run_of_render hrequest] at hcode ⊢
    obtain ⟨path, suppress, state, document, hsources, hnone, hwrite⟩ := exists_sources hcode
    refine ⟨path, suppress, state, document, hsources, hnone, fun file hpath hsuppress => ?_⟩
    have hleft := hwrite file hpath hsuppress
    obtain ⟨place, hleads, -, hwritten⟩ := Tree.writeText_ok hleft
    refine ⟨⟨place, hleads, hwritten⟩, Tree.readText_of_writeText hleft, fun name => ?_, ?_⟩
    · exact Store.get?_setAll _ _ name
    · intro hread later other hlater values
      exact keptAt_iff_of_readText hlater hread
  · intro t t' arguments arguments' a a' file file' state document document' hrequest hrequest'
      hcode hcode' hsources hsources' hdirectives
    rw [run_of_render hrequest] at hcode ⊢
    rw [run_of_render hrequest'] at hcode' ⊢
    rw [readText_of_sources hsources hcode, readText_of_sources hsources' hcode', hdirectives]

def lampDocument : String :=
  "[[[\"gold\",2,null],[\"lamp\",\"lit\",\"gold == 2\"]],[[\"text\",\"Go\"]]]"

def lampState : String := "\x7b\"gold\":1,\"hero\":\"Ada\"\x7d"

/-- A document beside the variables of an earlier render. -/
def lampTree : Tree where
  entries := [(["doc.json"], .text lampDocument), (["state.json"], .text lampState)]
  current := []

def lampBefore : Fields := [("gold", .number (.int 1)), ("hero", .text "Ada")]

def lampAfter : Fields := [("gold", .number (.int 2)), ("hero", .text "Ada"), ("lamp", .text "lit")]

def lampArguments : RenderArguments :=
  ⟨"doc.json", none, some "state.json", none, false, false, false, false⟩

theorem read?_stateText_lampAfter :
    Json.read? (Json.pretty (.object lampAfter) ++ "\n") = some (.object lampAfter) := by
  decide +kernel

theorem keptAt_lampTree : KeptAt lampTree (some "state.json") lampBefore := by
  have hexists : lampTree.exists? "state.json" = true := by decide +kernel
  have htext : lampTree.readText "state.json" = .ok lampState := ok_of_toOption (by decide +kernel)
  simp only [KeptAt, hexists, if_true]
  exact ⟨lampState, htext, by decide +kernel⟩

theorem sources_lampTree : ∃ document,
    (∀ markdown, Sources lampTree { lampArguments with markdown } (some "state.json") false
      lampBefore document) ∧
    (storeAfter document.directives (.ofFields lampBefore)).values = lampAfter := by
  have hafter : ((Document.read lampDocument).toOption.map fun document =>
      (storeAfter document.directives (.ofFields lampBefore)).values) = some lampAfter := by
    decide +kernel
  obtain ⟨document, hdocument, hvalues⟩ := Option.map_eq_some_iff.mp hafter
  have hbase : Config.load lampTree none .none = .ok ⟨.default, none⟩ :=
    ok_of_toOption (by decide +kernel)
  have htext : lampTree.readText "doc.json" = .ok lampDocument :=
    ok_of_toOption (by decide +kernel)
  exact ⟨document, fun _ => ⟨⟨_, hbase, rfl, rfl⟩, keptAt_lampTree, lampDocument, htext,
    ok_of_toOption hdocument⟩, hvalues⟩

/-- A render with `--markdown` saves what one without it does, the next render starts from that, and
a render of a document that is not there saves nothing. -/
theorem lamp_kept_for_the_next_render :
    let left := (run lampTree ["render", "-s", "state.json", "doc.json"]).tree
    (run lampTree ["render", "lost.json"]).tree = lampTree ∧
    (∀ values, KeptAt left (some "state.json") values ↔ values = lampAfter) ∧
    (run lampTree ["render", "--markdown", "-s", "state.json", "doc.json"]).tree.readText
      "state.json" = left.readText "state.json" := by
  intro left
  obtain ⟨hfailed, hsaved, hsame⟩ := only_state_file_changes
  obtain ⟨document, hsources, hvalues⟩ := sources_lampTree
  have hrequest : Request.read? ["render", "-s", "state.json", "doc.json"] =
    some (.render lampArguments) := rfl
  have hrequest' : Request.read? ["render", "--markdown", "-s", "state.json", "doc.json"] =
    some (.render { lampArguments with markdown := true }) := rfl
  have hcode : (run lampTree ["render", "-s", "state.json", "doc.json"]).code = 0 := by
    decide +kernel
  have hcode' : (run lampTree ["render", "--markdown", "-s", "state.json", "doc.json"]).code = 0 := by
    decide +kernel
  refine ⟨hfailed lampTree _ (by decide +kernel), ?_, ?_⟩
  · obtain ⟨path, suppress, state, found, hfound, -, hfile⟩ := hsaved lampTree _ _ hrequest hcode
    obtain ⟨rfl, rfl, rfl, rfl⟩ := hfound.unique (hsources false)
    obtain ⟨-, htext, -, hnext⟩ := hfile "state.json" rfl rfl
    have hread : Json.read? (stateText (storeAfter found.directives (.ofFields lampBefore))) =
        some (.object (storeAfter found.directives (.ofFields lampBefore)).values) := by
      rw [stateText, hvalues]
      exact read?_stateText_lampAfter
    intro values
    rw [hnext hread left "state.json" htext, hvalues]
  · exact hsame lampTree lampTree _ _ _ _ "state.json" "state.json" lampBefore document document
      hrequest' hrequest hcode' hcode (hsources true) (hsources false) rfl

end StoryPress.Command
