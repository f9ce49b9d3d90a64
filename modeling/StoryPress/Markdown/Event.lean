import StoryPress.Markdown.Tree

namespace StoryPress.Markdown

/-- The elements that a writer may be given, more than a document tree has. -/
inductive Tag where
  | paragraph
  | heading (level : Nat)
  | quote
  | code (info : Option String)
  | list (start : Option Nat)
  | item
  | table (alignments : List ColumnAlignment)
  | tableHead
  | tableRow
  | tableCell
  | styled (style : Style)
  | link (url title : String)
  | image (source title : String)
  | definitionList
  | definitionTerm
  | definitionDetails
  | htmlBlock
  | footnote (label : String)
  | metadata
  deriving DecidableEq, Repr

inductive Event where
  | enter (tag : Tag)
  | leave (tag : Tag)
  | text (s : String)
  | code (s : String)
  | rawHtml (s : String)
  | softBreak
  | hardBreak
  | rule
  | taskMarker (checked : Bool)
  | footnoteReference (label : String)
  | formula (s : String)
  deriving DecidableEq, Repr

namespace Event

def isRawHtml : Event → Bool
  | .rawHtml _ => true
  | _ => false

def around (tag : Tag) (content : List Event) : List Event :=
  .enter tag :: (content ++ [.leave tag])

mutual

def ofInline : Inline → List Event
  | .text s => [.text s]
  | .code s => [.code s]
  | .rawHtml s => [.rawHtml s]
  | .softBreak => [.softBreak]
  | .hardBreak => [.hardBreak]
  | .taskMarker checked => [.taskMarker checked]
  | .styled style content => around (.styled style) (ofInlines content)
  | .link url title content => around (.link url title) (ofInlines content)
  | .image source title content => around (.image source title) (ofInlines content)

def ofInlines : List Inline → List Event
  | [] => []
  | i :: rest => ofInline i ++ ofInlines rest

end

def ofCells (cells : List (List Inline)) : List Event :=
  cells.flatMap fun cell => around .tableCell (ofInlines cell)

mutual

def ofBlock : Block → List Event
  | .paragraph content => around .paragraph (ofInlines content)
  | .plain content => ofInlines content
  | .heading level content => around (.heading level) (ofInlines content)
  | .quote content => around .quote (ofBlocks content)
  | .code info chunks => around (.code info) (chunks.map .text)
  | .list start items => around (.list start) (ofItems items)
  | .table alignments head rows =>
    around (.table alignments)
      (around .tableHead (ofCells head) ++ rows.flatMap fun row => around .tableRow (ofCells row))
  | .rule => [.rule]
  | .rawHtml chunks => chunks.map .rawHtml

def ofBlocks : List Block → List Event
  | [] => []
  | b :: rest => ofBlock b ++ ofBlocks rest

def ofItems : List (List Block) → List Event
  | [] => []
  | item :: rest => around .item (ofBlocks item) ++ ofItems rest

end

end Event

end StoryPress.Markdown
