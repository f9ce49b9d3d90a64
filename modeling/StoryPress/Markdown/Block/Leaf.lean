import StoryPress.Markdown.Cursor
import StoryPress.Markdown.RawHtml
import StoryPress.Markdown.Tree

namespace StoryPress.Markdown.Leaf

open Scan

/-- Whether a line is a rule: three or more equal marks, with blanks allowed between. -/
def isRule (cs : List Char) : Bool :=
  let line := (splitLine cs).1
  match line with
  | [] => false
  | c :: _ =>
    (c == '*' || c == '-' || c == '_') && 3 ≤ line.count c &&
      line.all fun x => x == c || x == ' ' || x == '\t'

/-- The level of a heading: one to six number signs before a blank or the end of the line. -/
def headingLevel? (cs : List Char) : Option Nat :=
  let level := countHead '#' cs
  let ended := match cs.drop level with
    | [] => true
    | c :: _ => isBlank c
  if 1 ≤ level && level ≤ 6 && ended then some level else none

/-- The text of a heading without number signs that close it. -/
def headingText (line : List Char) : List Char :=
  let text := (line.reverse.dropWhile (· == ' ')).reverse
  let opened := (text.reverse.dropWhile (· == '#')).reverse
  if opened.isEmpty then []
  else
    let trimmed := (opened.reverse.dropWhile (· == ' ')).reverse
    if trimmed.length < opened.length then trimmed else text

/-- The level that an underline gives to the paragraph above it. -/
def underlineLevel? (cs : List Char) : Option Nat :=
  match cs with
  | '=' :: _ => if isBlankLine (cs.drop (countHead '=' cs)) then some 1 else none
  | '-' :: _ => if isBlankLine (cs.drop (countHead '-' cs)) then some 2 else none
  | _ => none

/-- The mark of an opening fence and how often it is repeated. The info text of a fence of
backticks holds no backtick. -/
def fence? (cs : List Char) : Option (Char × Nat) :=
  match cs with
  | [] => none
  | c :: _ =>
    let count := countHead c cs
    if (c == '`' || c == '~') && 3 ≤ count then
      if c == '`' && (splitFeedLine (cs.drop count)).1.contains '`' then none
      else some (c, count)
    else none

def closesFence (mark : Char) (count : Nat) (cs : List Char) : Bool :=
  cs.isEmpty ||
    (count ≤ countHead mark cs &&
      (lineEnd? ((cs.drop (countHead mark cs)).dropWhile (· == ' '))).isSome)

/-- The mark of a list item: its character, its number if it has one, and its width. -/
structure ItemMark where
  char : Char
  number : Option Nat
  width : Nat

/-- A bullet, or at most nine digits with a point or a parenthesis. -/
def itemMark? (cs : List Char) : Option ItemMark :=
  match cs with
  | [] => none
  | c :: _ =>
    if c == '-' || c == '+' || c == '*' then some ⟨c, none, 1⟩
    else
      let digits := cs.takeWhile Char.isDigit
      match cs.drop digits.length with
      | d :: _ =>
        if !digits.isEmpty && digits.length ≤ 9 && (d == '.' || d == ')') then
          some ⟨d, some (Text.numberOf 10 digits), digits.length + 1⟩
        else none
      | [] => none

/-- The start of a list item: its mark, the columns up to its content, and the cursor there. A rule
is no list item. -/
def itemStart? (indent : Nat) (c : Cursor) : Option (ItemMark × Nat × Cursor) :=
  match itemMark? c.rest with
  | none => none
  | some mark =>
    if isRule c.rest then none
    else
      let after : Cursor := ⟨c.rest.drop mark.width, c.column + mark.width, c.pending⟩
      let (found, next) := after.skipAll 1
      if !found && !after.atLineEnd then none
      else
        let width := indent + mark.width + 1
        if isBlankLine next.rest then some (mark, width, next)
        else
          let (more, deeper) := next.skipUpTo 4
          if more < 4 then some (mark, width + more, deeper) else some (mark, width, next)

/-- Whether a list item may end a paragraph: its first two lines are not both blank, and it is a
bullet or has number one. -/
def interruptsParagraph (inner : Bool) (cs : List Char) : Bool :=
  match itemMark? cs with
  | none => false
  | some mark =>
    let after := cs.drop mark.width
    let spaced := match after with
      | [] => true
      | c :: _ => isLineEnd c || c == ' ' || c == '\t'
    let empty := match blankLine? after with
      | some next => isBlankLine next
      | none => false
    spaced && (!inner || ((mark.number.isNone || mark.number == some 1) && !empty))

/-- Whether a block of raw HTML that may end a paragraph starts here. -/
def startsRawHtml (cs : List Char) : Bool :=
  match cs with
  | '<' :: rest => (RawHtml.blockEnding? rest).isSome || RawHtml.startsElement rest
  | _ => false

def columnAlignment? (cell : List Char) : Option ColumnAlignment :=
  let marks := cell.filter (· != ' ')
  let left := marks.head? == some ':'
  let right := (marks.drop 1).contains ':'
  if marks.contains '-' then
    some (if left && right then .center else if left then .left
      else if right then .right else .none)
  else none

/-- The columns of a table by the line under its head, and what follows that line. Only hyphens,
colons, bars and spaces may stand there, at least one bar, and a hyphen in each column. -/
def tableColumns? (cs : List Char) : Option (List ColumnAlignment × List Char) :=
  let (line, rest) := splitLine cs
  let indent := (line.takeWhile (· == ' ')).length
  if 3 < indent || !line.all (fun c => c == ' ' || c == '-' || c == ':' || c == '|') ||
      !line.contains '|' then none
  else
    let body := match line.drop indent with
      | '|' :: body => body
      | body => body
    let cells := Text.splitChars '|' body
    let cells := if (cells.getLastD []).all (· == ' ') then cells.dropLast else cells
    (cells.mapM columnAlignment?).bind fun columns =>
      if columns.isEmpty then none else some (columns, rest)

/-- The bars of a line that are not escaped by a backslash, as cut places: the parts between
them. -/
def splitCells : Bool → List Char → List (List Char)
  | _, [] => [[]]
  | escaped, c :: rest =>
    let more := splitCells (c == '\\') rest
    if c == '|' && !escaped then [] :: more
    else match more with
      | [] => [[c]]
      | first :: others => (c :: first) :: others

def isCellBlank (cell : List Char) : Bool := cell.all isInlineBlank

/-- The cells of a row: bars at its ends enclose no cell, and a bar after a backslash is text. -/
def rowCells (line : List Char) : List (List Char) :=
  let cells := splitCells false line
  let cells := match cells with
    | first :: second :: rest => if isCellBlank first then second :: rest else cells
    | _ => cells
  if isCellBlank (cells.getLastD []) then cells.dropLast else cells

/-- A cell as inline content, where a backslash before a bar was only for the table. -/
def cellText : List Char → List Char
  | '\\' :: '|' :: rest => '|' :: cellText rest
  | c :: rest => c :: cellText rest
  | [] => []

def hasBar (line : List Char) : Bool := 1 < (splitCells false line).length

end StoryPress.Markdown.Leaf
