import StoryPress.Html.Writer
import StoryPress.Markdown.Reader
import StoryPress.Modifier.Window
import StoryPress.Story.Document

/-! Directives are dispatched first. Then the blocks are walked in order: an invocation arms the one
modifier that accepts it, or stays in the text; a text block has its links and inserts replaced and
is given to all armed modifiers. The Markdown gathered this way is written as HTML. Blocks never
write variables, so modifiers and inserts see the store as the dispatch left it. -/
namespace StoryPress.Story

open StoryPress.Json (Lookup)
open StoryPress.Modifier (Passage Registry Run Window fallback)

/-- What documents are rendered with. Modifiers and inserts may read variables. -/
structure Renderer where
  links : String → String
  inserts : Lookup → String → String
  modifiers : Lookup → Registry
  options : Markdown.Options
  rules : Html.Rules

structure Rendering where
  html : String
  markdown : String
  warnings : List String
  deriving DecidableEq, Repr

/-- A place among the blocks: what is armed there, and what the blocks before it left. -/
structure Walk where
  window : Window
  markdown : String
  warnings : List String
  runs : List Run

namespace Walk

def start : Walk := ⟨.empty, "", [], []⟩

/-- The warning about an invocation that several modifiers accept. -/
def ambiguity (invocation : String) (names : List String) : String :=
  "More than one modifier matched \"[" ++ invocation ++ "]\" (" ++ ", ".intercalate names ++ ")"

/-- An invocation that does not take effect stays in the text. -/
def invoke (registry : Registry) (invocation : String) (w : Walk) : Walk :=
  match registry.resolve invocation with
  | .unique index =>
    match registry[index]? with
    | some modifier => { w with window := w.window.activate ⟨index, modifier, invocation⟩ }
    | none => w
  | .unmatched => { w with markdown := w.markdown ++ fallback invocation }
  | .ambiguous indices =>
    { w with
      markdown := w.markdown ++ fallback invocation
      warnings := w.warnings ++ [ambiguity invocation (registry.names indices)] }

/-- One block. A failing handler keeps the block out of the text. -/
def step (substitute : String → String) (registry : Registry) (w : Walk) :
    Block → Walk × Option RenderError
  | .modifier invocation => (w.invoke registry invocation, none)
  | .text content =>
    let (window, applied) := w.window.apply (.ofText (substitute content))
    let w := { w with window, runs := w.runs ++ applied.runs }
    match applied.error with
    | some e => (w, some e)
    | none => ({ w with markdown := w.markdown ++ applied.passage.write }, none)

def all (substitute : String → String) (registry : Registry) :
    List Block → Walk → Walk × Option RenderError
  | [], w => (w, none)
  | block :: rest, w =>
    match w.step substitute registry block with
    | (w, some e) => (w, some e)
    | (w, none) => all substitute registry rest w

theorem all_append (substitute : String → String) (registry : Registry) (xs ys : List Block)
    (w : Walk) :
    all substitute registry (xs ++ ys) w =
      match all substitute registry xs w with
      | (w, some e) => (w, some e)
      | (w, none) => all substitute registry ys w := by
  induction xs generalizing w with
  | nil => rfl
  | cons x xs ih =>
    rw [List.cons_append, all, all]
    split
    · rfl
    · exact ih _

end Walk

/-- How a render ended. Writes made before a failure are kept. -/
structure Rendered where
  store : Store
  calls : List Directive.Call
  runs : List Run
  result : Except RenderError Rendering

namespace Renderer

/-- What links and inserts make of the content of a text block. -/
def substitute (r : Renderer) (lookup : Lookup) (content : String) : String :=
  r.inserts lookup (r.links content)

def html (r : Renderer) (markdown : String) : String :=
  Html.ofEvents r.rules r.options.lineBreaks
    (Markdown.Event.ofBlocks (Markdown.read r.options markdown))

def walk (r : Renderer) (lookup : Lookup) (blocks : List Block) : Walk × Option RenderError :=
  Walk.all (r.substitute lookup) (r.modifiers lookup) blocks .start

def render (r : Renderer) (suppress : Bool) (document : Document) (store : Store) : Rendered :=
  let dispatched := dispatchUnless suppress document.directives store
  match dispatched.error with
  | some e => ⟨dispatched.store, dispatched.calls, [], .error e⟩
  | none =>
    let (w, error) := r.walk dispatched.store.get? document.blocks
    let result := match error with
      | some e => .error e
      | none => .ok ⟨r.html w.markdown, w.markdown, w.warnings⟩
    ⟨dispatched.store, dispatched.calls, w.runs, result⟩

/-- Renders a document so many times, each on the store that the last render left. -/
def renderTimes (r : Renderer) (suppress : Bool) (document : Document) :
    Nat → Store → List Rendered
  | 0, _ => []
  | n + 1, store =>
    let rendered := r.render suppress document store
    rendered :: r.renderTimes suppress document n rendered.store

/-- The store depends on the directives alone. -/
theorem store_render (r : Renderer) (suppress : Bool) (document : Document) (store : Store) :
    (r.render suppress document store).store =
      (dispatchUnless suppress document.directives store).store := by
  simp only [render]
  split <;> rfl

end Renderer

end StoryPress.Story
