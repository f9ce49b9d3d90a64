import StoryPress.Html.Writer

/-! The meaning of a document by recursion on its tree: an element's tags stand around the HTML of
its content. Nothing is held back or counted, as the writer of events has to do. -/
namespace StoryPress.Html

open StoryPress.Markdown (ColumnAlignment Block Inline)
open StoryPress.Text (escape)

mutual

/-- The alternative text of an image: its texts and codes, with a space for each line break. -/
def altText : Inline → String
  | .text s => s
  | .code s => s
  | .rawHtml _ => ""
  | .softBreak => " "
  | .hardBreak => " "
  | .taskMarker _ => ""
  | .styled _ content => altTexts content
  | .link _ _ content => altTexts content
  | .image _ _ content => altTexts content

def altTexts : List Inline → String
  | [] => ""
  | i :: rest => altText i ++ altTexts rest

end

def softBreak (rules : Rules) (lineBreaks : Bool) : String :=
  if lineBreaks then rules.hardBreak else "\n"

mutual

def ofInline (rules : Rules) (lineBreaks : Bool) : Inline → String
  | .text s => escape s
  | .code s => rules.codeSpan s
  | .rawHtml s => s
  | .softBreak => softBreak rules lineBreaks
  | .hardBreak => rules.hardBreak
  | .taskMarker checked => rules.taskMarker checked
  | .styled style content =>
    rules.styleStart style ++ ofInlines rules lineBreaks content ++ rules.styleEnd style
  | .link url title content =>
    rules.linkStart url title ++ ofInlines rules lineBreaks content ++ rules.linkEnd
  | .image source title content => rules.image source (altTexts content) title

def ofInlines (rules : Rules) (lineBreaks : Bool) : List Inline → String
  | [] => ""
  | i :: rest => ofInline rules lineBreaks i ++ ofInlines rules lineBreaks rest

end

/-- The cells of a row; the alignment of a cell is that of its column. -/
def ofCells (rules : Rules) (lineBreaks : Bool) (element : String) :
    List ColumnAlignment → List (List Inline) → String
  | _, [] => ""
  | alignments, cell :: rest =>
    "<" ++ element ++ Writer.alignmentStyle (alignments.head?.getD .none) ++ ">" ++
      ofInlines rules lineBreaks cell ++ "</" ++ element ++ ">" ++
      ofCells rules lineBreaks element alignments.tail rest

def ofRow (rules : Rules) (lineBreaks : Bool) (alignments : List ColumnAlignment)
    (row : List (List Inline)) : String :=
  "<tr>" ++ ofCells rules lineBreaks "td" alignments row ++ "</tr>"

def listStart : Option Nat → String
  | none => "<ul>"
  | some 1 => "<ol>"
  | some n => "<ol start=\"" ++ toString n ++ "\">"

def listEnd : Option Nat → String
  | none => "</ul>"
  | some _ => "</ol>"

mutual

def ofBlock (rules : Rules) (lineBreaks : Bool) : Block → String
  | .paragraph content => "<p>" ++ ofInlines rules lineBreaks content ++ "</p>"
  | .plain content => ofInlines rules lineBreaks content
  | .heading level content =>
    "<" ++ Writer.headingTag level ++ ">" ++ ofInlines rules lineBreaks content ++
      "</" ++ Writer.headingTag level ++ ">"
  | .quote content => rules.quoteStart ++ ofBlocks rules lineBreaks content ++ rules.quoteEnd
  | .code info chunks => rules.codeBlock (Writer.language? info) (String.join chunks)
  | .list start items => listStart start ++ ofItems rules lineBreaks items ++ listEnd start
  | .table alignments head rows =>
    "<table><thead><tr>" ++ ofCells rules lineBreaks "th" alignments head ++
      "</tr></thead><tbody>" ++ String.join (rows.map (ofRow rules lineBreaks alignments)) ++
      "</tbody></table>"
  | .rule => rules.rule
  | .rawHtml chunks => String.join chunks

def ofBlocks (rules : Rules) (lineBreaks : Bool) : List Block → String
  | [] => ""
  | b :: rest => ofBlock rules lineBreaks b ++ ofBlocks rules lineBreaks rest

def ofItems (rules : Rules) (lineBreaks : Bool) : List (List Block) → String
  | [] => ""
  | item :: rest =>
    "<li>" ++ ofBlocks rules lineBreaks item ++ "</li>" ++ ofItems rules lineBreaks rest

end

end StoryPress.Html
