import StoryPress.Html.Rules
import StoryPress.Markdown.Event
import StoryPress.Text.Blank

/-! The writer takes one event at a time. It holds back the content of a code block and the
alternative text of an image until their end, and counts the cells of a table row to find their
alignment. -/
namespace StoryPress.Html

open StoryPress.Markdown (ColumnAlignment Event Tag)
open StoryPress.Text (escape)

/-- An image whose alternative text is being collected. -/
structure PendingImage where
  source : String
  title : String
  alt : String
  deriving DecidableEq, Repr

structure TableState where
  alignments : List ColumnAlignment
  inHead : Bool
  cell : Nat
  deriving DecidableEq, Repr

structure Writer where
  out : String
  code : Option (Option String × String)
  image : Option PendingImage
  table : TableState
  deriving Repr

namespace Writer

def start : Writer := ⟨"", none, none, ⟨[], false, 0⟩⟩

def put (w : Writer) (s : String) : Writer := { w with out := w.out ++ s }

/-- The first word of the info text of a code block. -/
def language? (info : Option String) : Option String :=
  info.bind fun info =>
    match (info.toList.dropWhile Text.isBlank).takeWhile (!Text.isBlank ·) with
    | [] => none
    | word => some (String.ofList word)

def alignmentStyle : ColumnAlignment → String
  | .left => " style=\"text-align: left\""
  | .center => " style=\"text-align: center\""
  | .right => " style=\"text-align: right\""
  | .none => ""

def TableState.style (t : TableState) : String :=
  alignmentStyle (t.alignments.getD t.cell .none)

def headingTag (level : Nat) : String := "h" ++ toString level

def enter (rules : Rules) (w : Writer) : Tag → Writer
  | .paragraph => w.put "<p>"
  | .heading level => w.put ("<" ++ headingTag level ++ ">")
  | .quote => w.put rules.quoteStart
  | .code info => { w with code := some (language? info, "") }
  | .list none => w.put "<ul>"
  | .list (some 1) => w.put "<ol>"
  | .list (some n) => w.put ("<ol start=\"" ++ toString n ++ "\">")
  | .item => w.put "<li>"
  | .table alignments => { w.put "<table>" with table := ⟨alignments, false, 0⟩ }
  | .tableHead =>
    { w.put "<thead><tr>" with table := { w.table with inHead := true, cell := 0 } }
  | .tableRow => { w.put "<tr>" with table := { w.table with cell := 0 } }
  | .tableCell =>
    w.put ((if w.table.inHead then "<th" else "<td") ++ TableState.style w.table ++ ">")
  | .styled style => w.put (rules.styleStart style)
  | .link url title => w.put (rules.linkStart url title)
  | .image source title => { w with image := some ⟨source, title, ""⟩ }
  | .definitionList => w.put "<dl>"
  | .definitionTerm => w.put "<dt>"
  | .definitionDetails => w.put "<dd>"
  | .htmlBlock | .footnote _ | .metadata => w

def leave (rules : Rules) (w : Writer) : Tag → Writer
  | .paragraph => w.put "</p>"
  | .heading level => w.put ("</" ++ headingTag level ++ ">")
  | .quote => w.put rules.quoteEnd
  | .code _ =>
    match w.code with
    | some (language, content) => { w.put (rules.codeBlock language content) with code := none }
    | none => w
  | .list none => w.put "</ul>"
  | .list (some _) => w.put "</ol>"
  | .item => w.put "</li>"
  | .table _ => w.put "</tbody></table>"
  | .tableHead => { w.put "</tr></thead><tbody>" with table := { w.table with inHead := false } }
  | .tableRow => w.put "</tr>"
  | .tableCell =>
    { w.put (if w.table.inHead then "</th>" else "</td>") with
      table := { w.table with cell := w.table.cell + 1 } }
  | .styled style => w.put (rules.styleEnd style)
  | .link _ _ => w.put rules.linkEnd
  | .image _ _ =>
    match w.image with
    | some image => { w.put (rules.image image.source image.alt image.title) with image := none }
    | none => w
  | .definitionList => w.put "</dl>"
  | .definitionTerm => w.put "</dt>"
  | .definitionDetails => w.put "</dd>"
  | .htmlBlock | .footnote _ | .metadata => w

/-- Adds to the alternative text of the image being collected, or else writes. -/
def putOr (w : Writer) (alt written : String) : Writer :=
  match w.image with
  | some image => { w with image := some { image with alt := image.alt ++ alt } }
  | none => w.put written

/-- One event. Elements inside an image are left out up to the first end of an image, footnotes and
formulas everywhere. -/
def step (rules : Rules) (lineBreaks : Bool) (w : Writer) : Event → Writer
  | .enter tag => if w.image.isSome then w else w.enter rules tag
  | .leave tag =>
    match w.image, tag with
    | some _, .image _ _ => w.leave rules tag
    | some _, _ => w
    | none, _ => w.leave rules tag
  | .text s =>
    match w.code with
    | some (language, content) => { w with code := some (language, content ++ s) }
    | none => w.putOr s (escape s)
  | .code s => w.putOr s (rules.codeSpan s)
  | .rawHtml s => w.put s
  | .softBreak => w.putOr " " (if lineBreaks then rules.hardBreak else "\n")
  | .hardBreak => w.put rules.hardBreak
  | .rule => w.put rules.rule
  | .taskMarker checked => w.put (rules.taskMarker checked)
  | .footnoteReference _ | .formula _ => w

def run (rules : Rules) (lineBreaks : Bool) (events : List Event) (w : Writer) : Writer :=
  events.foldl (step rules lineBreaks) w

@[simp] theorem run_nil (rules : Rules) (lineBreaks : Bool) (w : Writer) :
    run rules lineBreaks [] w = w := rfl

@[simp] theorem run_append (rules : Rules) (lineBreaks : Bool) (xs ys : List Event) (w : Writer) :
    run rules lineBreaks (xs ++ ys) w = run rules lineBreaks ys (run rules lineBreaks xs w) := by
  simp [run]

end Writer

def ofEvents (rules : Rules) (lineBreaks : Bool) (events : List Event) : String :=
  (Writer.run rules lineBreaks events .start).out

end StoryPress.Html
