import StoryPress.Markdown.Entity
import StoryPress.Text.Punctuation

namespace StoryPress.Markdown.Scan

def isInlineBlank (c : Char) : Bool := c == ' ' || c == '\t' || c == '\x0b' || c == '\x0c'

def isLineEnd (c : Char) : Bool := c == '\n' || c == '\r'

def isBlank (c : Char) : Bool := isInlineBlank c || isLineEnd c

def skipInlineBlanks (cs : List Char) : List Char := cs.dropWhile isInlineBlank

/-- What follows the end of the line, if the text stands there; the end of the text ends a line. -/
def lineEnd? : List Char → Option (List Char)
  | [] => some []
  | '\n' :: rest => some rest
  | '\r' :: '\n' :: rest => some rest
  | '\r' :: rest => some rest
  | _ => none

/-- What follows the line, if nothing but blanks is left of it. -/
def blankLine? (cs : List Char) : Option (List Char) := lineEnd? (skipInlineBlanks cs)

def isBlankLine (cs : List Char) : Bool := (blankLine? cs).isSome

/-- The rest of a line without its end, and the lines after it. -/
def splitLine : List Char → List Char × List Char
  | [] => ([], [])
  | '\n' :: rest => ([], rest)
  | '\r' :: '\n' :: rest => ([], rest)
  | '\r' :: rest => ([], rest)
  | c :: rest =>
    let (line, more) := splitLine rest
    (c :: line, more)

/-- The rest of a line up to a line feed, which it keeps, without a carriage return before it. -/
def splitFeedLine : List Char → List Char × List Char
  | [] => ([], [])
  | '\n' :: rest => (['\n'], rest)
  | '\r' :: '\n' :: rest => (['\n'], rest)
  | c :: rest =>
    let (line, more) := splitFeedLine rest
    (c :: line, more)

def countHead (c : Char) (cs : List Char) : Nat := (cs.takeWhile (· == c)).length

def startsWith (start : List Char) (cs : List Char) : Bool := start.isPrefixOf cs

def startsWithWord (word : String) (cs : List Char) : Bool :=
  (cs.take word.toList.length).map Char.toLower == word.toList

/-- Text with backslashes before punctuation removed and references replaced. -/
def unescape : Nat → List Char → List Char
  | 0, cs => cs
  | _, [] => []
  | fuel + 1, '\\' :: c :: rest =>
    if Text.isAsciiPunctuation c then c :: unescape fuel rest
    else '\\' :: unescape fuel (c :: rest)
  | fuel + 1, '&' :: rest =>
    match Entity.afterAmpersand? rest with
    | some (cs, rest) => cs ++ unescape fuel rest
    | none => '&' :: unescape fuel rest
  | fuel + 1, '\r' :: rest => unescape fuel rest
  | fuel + 1, c :: rest => c :: unescape fuel rest

def unescapeAll (cs : List Char) : List Char := unescape cs.length cs

end StoryPress.Markdown.Scan
