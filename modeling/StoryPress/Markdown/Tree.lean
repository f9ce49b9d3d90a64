namespace StoryPress.Markdown

inductive Style where
  | emphasis
  | strong
  | strikethrough
  | superscript
  | subscript
  deriving DecidableEq, Repr

inductive ColumnAlignment where
  | none
  | left
  | center
  | right
  deriving DecidableEq, Repr

inductive Inline where
  | text (s : String)
  | code (s : String)
  | rawHtml (s : String)
  | softBreak
  | hardBreak
  | taskMarker (checked : Bool)
  | styled (style : Style) (content : List Inline)
  | link (url title : String) (content : List Inline)
  | image (source title : String) (content : List Inline)
  deriving Repr

inductive Block where
  | paragraph (content : List Inline)
  /-- A paragraph of a tight list, which has no element of its own. -/
  | plain (content : List Inline)
  | heading (level : Nat) (content : List Inline)
  | quote (content : List Block)
  /-- A code block in chunks; a fenced one has an info text. -/
  | code (info : Option String) (chunks : List String)
  /-- A list; an ordered one has a first number. -/
  | list (start : Option Nat) (items : List (List Block))
  | table (alignments : List ColumnAlignment) (head : List (List Inline))
      (rows : List (List (List Inline)))
  | rule
  | rawHtml (chunks : List String)
  deriving Repr

/-- Which extensions of Markdown are read, and how single line ends are written. -/
structure Options where
  smartPunctuation : Bool
  gfm : Bool
  lineBreaks : Bool
  deriving DecidableEq, Repr

def Options.default : Options := ⟨true, true, true⟩

end StoryPress.Markdown
