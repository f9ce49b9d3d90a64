import StoryPress.Markdown.Block.Leaf
import StoryPress.Markdown.Reference

/-! While a document is read line by line, quotes, lists and list items stand open around the
current place. An outline is the stack of what is open, with the nodes finished so far; closing a
container turns it into a node of the one around it. Paragraphs keep their text until all
definitions are known. -/
namespace StoryPress.Markdown

/-- A finished block whose inline content is still text. -/
inductive Node where
  | paragraph (task : Option Bool) (text : List Char)
  | task (checked : Bool)
  /-- A heading; one made by an underline may hold a task box. -/
  | heading (level : Nat) (task : Option Bool) (text : List Char)
  | quote (content : List Node)
  | code (info : Option (List Char)) (chunks : List (List Char))
  | list (tight : Bool) (start : Option Nat) (items : List (List Node))
  | table (alignments : List ColumnAlignment) (head : List (List Char)) (rows : List (List (List Char)))
  | rule
  | rawHtml (chunks : List (List Char))

/-- A list whose last item is not known yet. -/
structure OpenList where
  /-- Whether no blank line has parted its content. -/
  tight : Bool
  /-- The character of its marks. -/
  char : Char
  start : Option Nat
  /-- Finished items, the last one first. -/
  items : List (List Node)

/-- An open container with the nodes finished inside it, the last one first. An item is known by the
columns up to its content. -/
inductive Frame where
  | quote (nodes : List Node)
  | list (l : OpenList)
  | item (indent : Nat) (nodes : List Node)

structure Outline where
  /-- Open containers, the innermost first. -/
  frames : List Frame
  /-- Finished nodes outside all containers, the last one first. -/
  nodes : List Node
  /-- Whether a blank line came last. -/
  blankBefore : Bool
  /-- Whether the item that was begun last has had no content yet. -/
  itemBegun : Bool
  /-- A task box that waits for its paragraph. -/
  task : Option Bool
  references : References

namespace Outline

def empty : Outline := ⟨[], [], false, false, none, []⟩

/-- Adds a node to the innermost container; what is added to a list is an item of its own. -/
def add (o : Outline) (node : Node) : Outline :=
  match o.frames with
  | [] => { o with nodes := node :: o.nodes }
  | .quote nodes :: rest => { o with frames := .quote (node :: nodes) :: rest }
  | .item indent nodes :: rest => { o with frames := .item indent (node :: nodes) :: rest }
  | .list l :: rest => { o with frames := .list { l with items := [node] :: l.items } :: rest }

def push (o : Outline) (frame : Frame) : Outline := { o with frames := frame :: o.frames }

def close (o : Outline) : Outline :=
  match o.frames with
  | [] => o
  | .quote nodes :: rest => { o with frames := rest }.add (.quote nodes.reverse)
  | .list l :: rest =>
    { o with frames := rest, itemBegun := o.itemBegun && !l.tight }.add
      (.list l.tight l.start l.items.reverse)
  | .item _ nodes :: .list l :: rest =>
    { o with frames := .list { l with items := nodes.reverse :: l.items } :: rest }
  | .item _ _ :: rest => { o with frames := rest }

def closeTo (depth : Nat) (o : Outline) : Outline :=
  (List.range (o.frames.length - depth)).foldl (fun o _ => o.close) o

def loosen : Frame → Frame
  | .list l => .list { l with tight := false }
  | frame => frame

/-- An item that begins with two blank lines stays empty. -/
def finishEmptyItem (o : Outline) : Outline :=
  let o := match o.frames with
    | .item _ _ :: _ => if o.itemBegun && o.blankBefore then o.close else o
    | _ => o
  { o with itemBegun := false }

/-- Closes a list that a new block ends. A blank line before a block of an item makes the list
loose. -/
def finishList (o : Outline) : Outline :=
  let o := o.finishEmptyItem
  let o := match o.frames with
    | .list _ :: _ => o.close
    | _ => o
  if o.blankBefore then
    let frames := match o.frames with
      | inner :: outer :: rest => inner :: loosen outer :: rest
      | frames => frames
    { o with frames, blankBefore := false }
  else o

/-- Goes on with the open list if its marks have this character, or begins a new list. -/
def continueList (char : Char) (start : Option Nat) (o : Outline) : Outline :=
  let o := o.finishEmptyItem
  let begins (o : Outline) : Outline :=
    { o.finishList.push (.list ⟨true, char, start, []⟩) with blankBefore := false }
  match o.frames with
  | .list l :: rest =>
    if l.char == char then
      { o with frames := .list { l with tight := l.tight && !o.blankBefore } :: rest,
               blankBefore := false }
    else begins o
  | _ => begins o

/-- A blank line. An item that begins with two of them holds nothing, and its indentation no longer
counts. -/
def blankLine (o : Outline) : Outline :=
  match o.frames with
  | [] => o
  | .quote _ :: _ => o
  | .item indent nodes :: rest =>
    { o with
      frames := .item (if o.itemBegun then 0 else indent) nodes :: rest, blankBefore := true }
  | _ => { o with blankBefore := true }

/-- How many containers, from the outermost on, go on in a line, and the cursor after their
marks. -/
def matchFrom : List Frame → Cursor → Nat × Cursor
  | [], c => (0, c)
  | .quote _ :: rest, c =>
    match (c.skip 3).2.quoteMark? with
    | some next =>
      let (n, c) := matchFrom rest next
      (n + 1, c)
    | none => (0, c)
  | .item indent _ :: rest, c =>
    let (found, next) := c.skipAll indent
    if found || next.atLineEnd then
      let (n, c) := matchFrom rest next
      (n + 1, c)
    else (0, c)
  | .list _ :: rest, c =>
    let (n, c) := matchFrom rest c
    (n + 1, c)

def matchLine (o : Outline) (line : List Char) : Nat × Cursor :=
  matchFrom o.frames.reverse (.ofText line)

/-- The cursor in a line in which all open containers go on. -/
def matchAll? (o : Outline) (line : List Char) : Option Cursor :=
  let (n, c) := o.matchLine line
  if n == o.frames.length then some c else none

def finish (o : Outline) : List Node := (o.closeTo 0).nodes.reverse

end Outline

end StoryPress.Markdown
