import StoryPress.Markdown.Block.Reader
import StoryPress.Markdown.Inline.Reader

namespace StoryPress.Markdown

structure InlineContext where
  options : Options
  references : References

namespace InlineContext

def inlines (cx : InlineContext) (text : List Char) : List Inline :=
  InlineReader.read cx.options cx.references text

def withTask (task : Option Bool) (content : List Inline) : List Inline :=
  match task with
  | some checked => .taskMarker checked :: content
  | none => content

mutual

/-- A block; the paragraphs of a tight item stand without an element of their own. -/
def block (cx : InlineContext) (tight : Bool) : Node → Block
  | .paragraph task text =>
    let content := withTask task (cx.inlines text)
    if tight then .plain content else .paragraph content
  | .task checked => .plain [.taskMarker checked]
  | .heading level task text => .heading level (withTask task (cx.inlines text))
  | .quote content => .quote (blocks cx false content)
  | .code info chunks => .code (info.map String.ofList) (chunks.map String.ofList)
  | .list tight start items => .list start (itemBlocks cx tight items)
  | .table alignments head rows =>
    .table alignments (head.map cx.inlines) (rows.map fun row => row.map cx.inlines)
  | .rule => .rule
  | .rawHtml chunks => .rawHtml (chunks.map String.ofList)

def blocks (cx : InlineContext) (tight : Bool) : List Node → List Block
  | [] => []
  | node :: rest => block cx tight node :: blocks cx tight rest

def itemBlocks (cx : InlineContext) (tight : Bool) : List (List Node) → List (List Block)
  | [] => []
  | item :: rest => blocks cx tight item :: itemBlocks cx tight rest

end

end InlineContext

def read (options : Options) (text : String) : List Block :=
  let (nodes, references) := BlockReader.read options text.toList
  InlineContext.blocks ⟨options, references⟩ false nodes

end StoryPress.Markdown
