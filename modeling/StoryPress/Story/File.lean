import StoryPress.Json.Record
import StoryPress.Story.Document

/-! A document file is a JSON record of variables and blocks. Reading one checks its shape;
compiling it then looks for an unknown block type first, for a condition that does not parse next,
and for missing parts last. A document with any of these is never rendered. -/
namespace StoryPress.Story

open StoryPress.Json (Syntax Value)

structure DirectiveEntry where
  name : String
  value : Value
  condition : Option String

structure DocumentFile where
  directives : Option (List DirectiveEntry)
  blocks : Option (List BlockEntry)

inductive FileError where
  | json
  | condition (name : String) (e : Condition.Error)
  | render (e : RenderError)
  deriving DecidableEq, Repr

def FileError.message : FileError → String
  | json => "Invalid JSON: the text is no document"
  | condition name e => "Invalid condition for variable \"" ++ name ++ "\": " ++ e.message
  | render e => e.message

namespace DirectiveEntry

/-- Levels of nesting that a document puts around the value of a variable. -/
def levelsAround : Nat := 3

/-- A directive names its variable, and has null for a value unless one is given. -/
def ofSyntax? (syn : Syntax) : Option DirectiveEntry := do
  let [name, value, condition] ← syn.record? ["name", "value", "condition"] 3 | none
  let name ← Syntax.required? Syntax.text? name
  let value ← match value with
    | some value => value.toValue? (Syntax.levelLimit - levelsAround)
    | none => some .null
  let condition ← Syntax.optional? Syntax.text? condition
  return ⟨name, value, condition⟩

/-- The directive of a variable, whose condition is parsed now and evaluated when it is
dispatched. -/
def compile (entry : DirectiveEntry) : Except FileError Directive :=
  let directive := Directive.constant entry.name entry.value
  match entry.condition with
  | none => .ok directive
  | some source =>
    match Condition.parse source with
    | .ok condition => .ok (directive.given condition)
    | .error e => .error (.condition entry.name e)

end DirectiveEntry

/-- A block has a type, and no content unless one is given. -/
def BlockEntry.ofSyntax? (syn : Syntax) : Option BlockEntry := do
  let [kind, content] ← syn.record? ["type", "content"] 1 | none
  let kind ← Syntax.required? Syntax.text? kind
  let content ← match content with
    | some content => content.text?
    | none => some ""
  return ⟨kind, content⟩

namespace DocumentFile

def ofSyntax? (syn : Syntax) : Option DocumentFile := do
  let [directives, blocks] ← syn.record? ["vars", "blocks"] 2 | none
  let directives ← Syntax.optional? (Syntax.list? DirectiveEntry.ofSyntax?) directives
  let blocks ← Syntax.optional? (Syntax.list? BlockEntry.ofSyntax?) blocks
  return ⟨directives, blocks⟩

def read? (json : String) : Option DocumentFile := (Syntax.read? json).bind ofSyntax?

/-- What must hold of a part that is there. -/
def checkPart {α β ε : Type} (check : α → Except ε β) : Option α → Except ε (Option β)
  | none => .ok none
  | some a => (check a).map some

def compile (file : DocumentFile) : Except FileError Document := do
  let blocks ← (checkPart Block.ofEntries file.blocks).mapError .render
  let directives ← checkPart (fun entries => entries.mapM DirectiveEntry.compile) file.directives
  (Document.ofParts directives blocks).mapError .render

end DocumentFile

def Document.read (json : String) : Except FileError Document :=
  match DocumentFile.read? json with
  | none => .error .json
  | some file => file.compile

end StoryPress.Story
