import StoryPress.Markdown.Scan

/-! A cursor stands in the blanks at the start of a line and counts columns. A tab reaches to the
next multiple of four; of a tab that is taken only in part, the columns left over are still to be
taken. -/
namespace StoryPress.Markdown

open Scan

structure Cursor where
  rest : List Char
  /-- Characters taken since the last tab. -/
  column : Nat
  /-- Columns left over from a tab. -/
  pending : Nat

namespace Cursor

def ofText (cs : List Char) : Cursor := ⟨cs, 0, 0⟩

/-- Takes columns from characters, up to a wanted number, and gives what was not found of it. -/
def takeColumns : Nat → Nat → Nat → List Char → Nat × Cursor
  | 0, column, pending, cs => (0, ⟨cs, column, pending⟩)
  | wanted, column, pending, [] => (wanted, ⟨[], column, pending⟩)
  | wanted + 1, column, pending, c :: rest =>
    if c == ' ' then takeColumns wanted (column + 1) pending rest
    else if c == '\t' then
      let width := 4 - column % 4
      let taken := min width (wanted + 1)
      takeColumns (wanted + 1 - taken) 0 (width - taken) rest
    else (wanted + 1, ⟨c :: rest, column, pending⟩)

/-- Takes up to a wanted number of columns and gives what was not found of it. -/
def skip (wanted : Nat) (c : Cursor) : Nat × Cursor :=
  let fromPending := min c.pending wanted
  takeColumns (wanted - fromPending) c.column (c.pending - fromPending) c.rest

def skipAll (wanted : Nat) (c : Cursor) : Bool × Cursor :=
  let (missing, c) := c.skip wanted
  (missing == 0, c)

def skipUpTo (wanted : Nat) (c : Cursor) : Nat × Cursor :=
  let (missing, c) := c.skip wanted
  (wanted - missing, c)

def skipBlanks (c : Cursor) : Cursor :=
  ⟨c.rest.dropWhile fun x => x == ' ' || x == '\t', c.column, 0⟩

def atLineEnd (c : Cursor) : Bool :=
  match c.rest with
  | [] => true
  | x :: _ => isLineEnd x

def take? (x : Char) (c : Cursor) : Option Cursor :=
  match c.rest with
  | y :: rest => if x == y then some ⟨rest, c.column + 1, c.pending⟩ else none
  | [] => none

/-- Takes the mark of a quote and one column after it. -/
def quoteMark? (c : Cursor) : Option Cursor := (c.take? '>').map fun c => (c.skip 1).2

def alertKinds : List String := ["note", "tip", "important", "warning", "caution"]

/-- What follows a line that only names the kind of an alert. -/
def afterAlertLine? (c : Cursor) : Option (List Char) :=
  match c.rest with
  | '[' :: '!' :: rest =>
    (alertKinds.find? fun kind => startsWithWord kind rest).bind fun kind =>
      match rest.drop kind.toList.length with
      | ']' :: rest => blankLine? rest
      | _ => none
  | _ => none

/-- A task box: brackets around a blank or an x, and a blank after them. -/
def taskBox? (c : Cursor) : Option (Bool × Cursor) :=
  let c := (c.skip 3).2
  match c.rest with
  | '[' :: mark :: ']' :: next :: rest =>
    if !isInlineBlank next then none
    else if isInlineBlank mark then some (false, ⟨next :: rest, c.column + 3, c.pending⟩)
    else if mark == 'x' || mark == 'X' then some (true, ⟨next :: rest, c.column + 3, c.pending⟩)
    else none
  | _ => none

end Cursor

end StoryPress.Markdown
