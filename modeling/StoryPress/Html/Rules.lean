import StoryPress.Markdown.Tree
import StoryPress.Text.Escape

/-! The structure of a document is written alike by all formats. What a format may choose, the tags
of inline elements, links, images, code and quotes, is a record of rules. `standard` has the rules
that most formats share, `story` those of story output. -/
namespace StoryPress.Html

open StoryPress.Markdown (Style)
open StoryPress.Text (escape)

structure Rules where
  styleStart : Style → String
  styleEnd : Style → String
  codeSpan : (code : String) → String
  linkStart : (url title : String) → String
  linkEnd : String
  image : (source alt title : String) → String
  codeBlock : (language : Option String) → (content : String) → String
  quoteStart : String
  quoteEnd : String
  hardBreak : String
  rule : String
  taskMarker : (checked : Bool) → String

namespace Rules

def attr (name value : String) : String := " " ++ name ++ "=\"" ++ escape value ++ "\""

def titleAttribute (title : String) : String :=
  if title = "" then "" else attr "title" title

def standardElement : Style → String
  | .emphasis => "em"
  | .strong => "strong"
  | .strikethrough => "s"
  | .superscript => "sup"
  | .subscript => "sub"

/-- Everything but images and code blocks, which every format writes in its own way. -/
def standard (image : String → String → String → String)
    (codeBlock : Option String → String → String) : Rules where
  styleStart style := "<" ++ standardElement style ++ ">"
  styleEnd style := "</" ++ standardElement style ++ ">"
  codeSpan code := "<code>" ++ escape code ++ "</code>"
  linkStart url title := "<a" ++ attr "href" url ++ titleAttribute title ++ ">"
  linkEnd := "</a>"
  image := image
  codeBlock := codeBlock
  quoteStart := "<blockquote>"
  quoteEnd := "</blockquote>"
  hardBreak := "<br>"
  rule := "<hr>"
  taskMarker checked :=
    if checked then "<input type=\"checkbox\" checked disabled> "
    else "<input type=\"checkbox\" disabled> "

def storyElement : Style → String
  | .strikethrough => "del"
  | style => standardElement style

def isExternal (url : String) : Bool :=
  ["http://", "https://", "//"].any fun start => start.toList.isPrefixOf url.toList

def storyImage (source alt title : String) : String :=
  "<img" ++ attr "src" source ++ titleAttribute title ++ attr "alt" alt ++
    " loading=\"lazy\">"

def storyCodeBlock (language : Option String) (content : String) : String :=
  let classAttribute := match language with
    | some language => " class=\"language-" ++ escape language ++ "\""
    | none => ""
  "<pre><code" ++ classAttribute ++ ">" ++ escape content ++ "</code></pre>"

/-- Story output: deleted text has its own element, links that lead out open in a new tab, and
images load when they come into view. -/
def story : Rules :=
  { standard storyImage storyCodeBlock with
    styleStart := fun style => "<" ++ storyElement style ++ ">"
    styleEnd := fun style => "</" ++ storyElement style ++ ">"
    linkStart := fun url title =>
      "<a" ++ attr "href" url ++ titleAttribute title ++
        (if isExternal url then " target=\"_blank\" rel=\"noopener\">" else ">") }

/-- The rules of `standard`, with images and code blocks shown unescaped for inspection. -/
def plain : Rules :=
  standard (fun source alt title => "<img " ++ source ++ "|" ++ alt ++ "|" ++ title ++ ">")
    fun language content => "<pre " ++ language.getD "-" ++ ">" ++ content ++ "</pre>"

end Rules

end StoryPress.Html
