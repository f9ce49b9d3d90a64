import StoryPress.Html.Writer

/-! The frame of an event has a stand-in for every string it carries. A link that leads out, a title
and the language of a code block give their element an attribute more; the stand-ins either keep
these attributes or give all elements as few as possible. -/
namespace StoryPress.Html.Frame

open StoryPress.Markdown (Event Tag)

/-- A stand-in for a string: one that gives an attribute, or none. -/
def standIn (attributes gives : Bool) (bare : String) : String :=
  if attributes && gives then bare else ""

def ofTitle (attributes : Bool) (title : String) : String :=
  standIn attributes (title != "") "t"

def ofUrl (attributes : Bool) (url : String) : String :=
  standIn attributes (Rules.isExternal url) "//"

def ofInfo (attributes : Bool) (info : String) : String :=
  standIn attributes (Writer.language? (some info)).isSome "c"

def ofTag (attributes : Bool) : Tag → Tag
  | .code info => .code (info.map (ofInfo attributes))
  | .link url title => .link (ofUrl attributes url) (ofTitle attributes title)
  | .image _ title => .image "" (ofTitle attributes title)
  | .footnote _ => .footnote ""
  | tag => tag

def ofEvent (attributes : Bool) : Event → Event
  | .enter tag => .enter (ofTag attributes tag)
  | .leave tag => .leave (ofTag attributes tag)
  | .text _ => .text ""
  | .code _ => .code ""
  | .rawHtml _ => .rawHtml ""
  | .footnoteReference _ => .footnoteReference ""
  | .formula _ => .formula ""
  | e => e

end StoryPress.Html.Frame
