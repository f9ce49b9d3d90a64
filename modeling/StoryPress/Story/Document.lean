import StoryPress.Story.Directive

namespace StoryPress.Story

inductive Block where
  | text (content : String)
  | modifier (invocation : String)
  deriving DecidableEq, Repr

/-- A block as a document file writes it. -/
structure BlockEntry where
  kind : String
  content : String
  deriving DecidableEq, Repr

namespace Block

def kind : Block → String
  | text _ => "text"
  | modifier _ => "modifier"

def content : Block → String
  | text content => content
  | modifier invocation => invocation

def ofEntry (entry : BlockEntry) : Except RenderError Block :=
  if entry.kind = "text" then .ok (text entry.content)
  else if entry.kind = "modifier" then .ok (modifier entry.content)
  else .error (.unknownBlockType entry.kind)

/-- The blocks of all entries, or the failure of the first one of an unknown kind. -/
def ofEntries (entries : List BlockEntry) : Except RenderError (List Block) :=
  entries.mapM ofEntry

end Block

structure Document where
  directives : List Directive
  blocks : List Block

/-- Both parts must be present; the directives are missed first. -/
def Document.ofParts (directives : Option (List Directive)) (blocks : Option (List Block)) :
    Except RenderError Document :=
  match directives, blocks with
  | none, _ => .error (.missingField "vars")
  | _, none => .error (.missingField "blocks")
  | some directives, some blocks => .ok ⟨directives, blocks⟩

end StoryPress.Story
