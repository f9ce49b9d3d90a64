import StoryPress.Html.Tags
import StoryPress.Html.Writer

/-! Story output in fragments. Markup is the writer's own and stands as it is, data was carried by
an event and is escaped. What an event writes is told from the writer before it. -/
namespace StoryPress.Html

open StoryPress.Markdown (Event Tag)
open StoryPress.Text (escape)

inductive Fragment where
  | markup (s : String)
  | data (s : String)
  deriving DecidableEq, Repr

namespace Fragment

def write : Fragment → String
  | .markup s => s
  | .data s => escape s

def markup? : Fragment → Option String
  | .markup s => some s
  | .data _ => none

def writeAll (fragments : List Fragment) : String := String.join (fragments.map write)

def markupOf (fragments : List Fragment) : List String := fragments.filterMap markup?

@[simp] theorem writeAll_nil : writeAll [] = "" := rfl

@[simp] theorem writeAll_cons (fragment : Fragment) (fragments : List Fragment) :
    writeAll (fragment :: fragments) = fragment.write ++ writeAll fragments := by
  simp [writeAll]

@[simp] theorem writeAll_append (xs ys : List Fragment) :
    writeAll (xs ++ ys) = writeAll xs ++ writeAll ys := by
  simp [writeAll]

@[simp] theorem markupOf_nil : markupOf [] = [] := rfl

@[simp] theorem markupOf_markup (s : String) (fragments : List Fragment) :
    markupOf (.markup s :: fragments) = s :: markupOf fragments := rfl

@[simp] theorem markupOf_data (s : String) (fragments : List Fragment) :
    markupOf (.data s :: fragments) = markupOf fragments := rfl

@[simp] theorem markupOf_append (xs ys : List Fragment) :
    markupOf (xs ++ ys) = markupOf xs ++ markupOf ys := by
  simp [markupOf]

def ofAttribute (name value : String) : List Fragment :=
  [.markup (" " ++ name ++ "=\""), .data value, .markup "\""]

def ofTitle (title : String) : List Fragment :=
  if title = "" then [] else ofAttribute "title" title

def ofLinkStart (url title : String) : List Fragment :=
  [.markup "<a"] ++ ofAttribute "href" url ++ ofTitle title ++
    [.markup (if Rules.isExternal url then " target=\"_blank\" rel=\"noopener\">" else ">")]

def ofImage (source alt title : String) : List Fragment :=
  [.markup "<img"] ++ ofAttribute "src" source ++ ofTitle title ++ ofAttribute "alt" alt ++
    [.markup " loading=\"lazy\">"]

def ofCodeSpan (code : String) : List Fragment := [.markup "<code>", .data code, .markup "</code>"]

def ofLanguage : Option String → List Fragment
  | some language => [.markup " class=\"language-", .data language, .markup "\""]
  | none => []

def ofCodeBlock (language : Option String) (content : String) : List Fragment :=
  [.markup "<pre><code"] ++ ofLanguage language ++
    [.markup ">", .data content, .markup "</code></pre>"]

end Fragment

namespace Writer

/-- The writer with nothing written. -/
def fresh (w : Writer) : Writer := { w with out := "" }

/-- What one event writes. All that is not taken apart here carries no data, or only raw HTML. -/
def added (lineBreaks : Bool) (w : Writer) : Event → List Fragment
  | .enter (.link url title) => if w.image.isSome then [] else Fragment.ofLinkStart url title
  | .leave (.code _) =>
    match w.image, w.code with
    | none, some (language, content) => Fragment.ofCodeBlock language content
    | _, _ => []
  | .leave (.image _ _) =>
    match w.image with
    | some image => Fragment.ofImage image.source image.alt image.title
    | none => []
  | .text s => if w.code.isSome || w.image.isSome then [] else [.data s]
  | .code s => if w.image.isSome then [] else Fragment.ofCodeSpan s
  | e => [.markup (step .story lineBreaks w.fresh e).out]

def fragments (lineBreaks : Bool) (w : Writer) : List Event → List Fragment
  | [] => []
  | e :: rest => added lineBreaks w e ++ fragments lineBreaks (step .story lineBreaks w e) rest

end Writer

end StoryPress.Html
