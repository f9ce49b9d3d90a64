import StoryPress.Command.Builtins
import StoryPress.Story.File
import StoryPress.Story.Insert
import StoryPress.Story.Link
import StoryPress.Story.Render

namespace StoryPress.Command

open StoryPress.Config (Settings)
open StoryPress.Json (Fields)
open StoryPress.Story

def renderer (s : Settings) (inserts : Fields) : Renderer where
  links := Link.substitute
  inserts lookup := Insert.substitute (Insert.layered inserts lookup)
  modifiers := builtinRegistry s
  options := s.options
  rules := .story

/-- Renders the text of a document file, and gives the store that this leaves. -/
def press (s : Settings) (state inserts : Fields) (json : String) :
    Except FileError (Rendering × Store) := do
  let document ← Document.read json
  let rendered := (renderer s inserts).render s.suppressVariables document (.ofFields state)
  match rendered.result with
  | .error e => .error (.render e)
  | .ok rendering => return (rendering, rendered.store)

theorem press_of_read {s : Settings} {state inserts : Fields} {json : String} {document : Document}
    (hread : Document.read json = .ok document) :
    let rendered := (renderer s inserts).render s.suppressVariables document (.ofFields state)
    press s state inserts json =
      match rendered.result with
      | .error e => .error (.render e)
      | .ok rendering => .ok (rendering, rendered.store) := by
  intro rendered
  rw [press, hread]
  rfl

theorem press_of_read_error {s : Settings} {state inserts : Fields} {json : String}
    {e : FileError} (hread : Document.read json = .error e) :
    press s state inserts json = .error e := by
  rw [press, hread]
  rfl

end StoryPress.Command
