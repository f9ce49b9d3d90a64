namespace StoryPress.Html

structure ElementTag where
  closes : Bool
  name : String
  deriving DecidableEq, Repr

def ElementTag.ofName : List Char → ElementTag
  | '/' :: name => ⟨true, String.ofList name⟩
  | name => ⟨false, String.ofList name⟩

/-- Where a reader of tags stands. -/
inductive Place where
  | outside
  | name (read : List Char)
  | attributes (name : List Char)

def tagsFrom : Place → List Char → List ElementTag
  | _, [] => []
  | .outside, c :: rest => tagsFrom (if c = '<' then .name [] else .outside) rest
  | .name read, c :: rest =>
    if c = '>' then .ofName read :: tagsFrom .outside rest
    else tagsFrom (if c.isWhitespace then .attributes read else .name (read ++ [c])) rest
  | .attributes name, c :: rest =>
    if c = '>' then .ofName name :: tagsFrom .outside rest else tagsFrom (.attributes name) rest

/-- The tags of a text in their order; one that is still open at the end does not count. -/
def tagsOf (s : String) : List ElementTag := tagsFrom .outside s.toList

/-- The characters that start or end a tag or an attribute value. -/
def isMark (c : Char) : Bool := c == '<' || c == '>' || c == '"'

def marks (s : String) : List Char := s.toList.filter isMark

@[simp] theorem marks_append (s t : String) : marks (s ++ t) = marks s ++ marks t := by
  simp [marks]

end StoryPress.Html
