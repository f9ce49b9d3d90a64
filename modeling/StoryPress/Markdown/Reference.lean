import StoryPress.Markdown.Scan
import StoryPress.Text.Fold

/-! A link names its destination after its text or by a label that is defined elsewhere in the
document. Labels agree up to case folding and the width of blanks. The texts scanned here are
contents of paragraphs, whose lines end in line feeds and are never blank. -/
namespace StoryPress.Markdown

open Scan

structure Target where
  url : List Char
  title : List Char
  deriving DecidableEq, Repr

/-- Definitions by folded label, in the order of the document. -/
abbrev References := List (List Char × Target)

namespace Reference

/-- A label has fewer characters than this. -/
def labelLimit : Nat := 1000

/-- The inside of a label, up to the closing bracket, and what follows that. -/
def labelInside? : List Char → Option (List Char × List Char)
  | [] => none
  | ']' :: rest => some ([], rest)
  | '[' :: _ => none
  | '\\' :: c :: rest => (labelInside? rest).map fun (inside, rest) => ('\\' :: c :: inside, rest)
  | c :: rest => (labelInside? rest).map fun (inside, rest) => (c :: inside, rest)

def collapseBlanks : List Char → List Char
  | [] => []
  | c :: rest =>
    if isBlank c then
      match collapseBlanks rest with
      | ' ' :: more => ' ' :: more
      | more => ' ' :: more
    else c :: collapseBlanks rest

/-- The form in which labels are compared. -/
def fold (label : List Char) : List Char :=
  let collapsed := (collapseBlanks label).dropWhile (· == ' ')
  (collapsed.reverse.dropWhile (· == ' ')).reverse.flatMap Text.foldFull

/-- A label in brackets, given by the text after its opening bracket. -/
def label? (cs : List Char) : Option (List Char × List Char) :=
  match labelInside? cs with
  | some (inside, rest) =>
    if inside.all isBlank || labelLimit ≤ inside.length then none else some (fold inside, rest)
  | none => none

/-- How deeply parentheses may nest in a destination. -/
def maxNesting : Nat := 32

def pointyInside? : List Char → Option (List Char × List Char)
  | [] => none
  | '>' :: rest => some ([], rest)
  | '\n' :: _ => none
  | '<' :: _ => none
  | '\\' :: c :: rest =>
    if Text.isAsciiPunctuation c then
      (pointyInside? rest).map fun (inside, rest) => ('\\' :: c :: inside, rest)
    else (pointyInside? (c :: rest)).map fun (inside, rest) => ('\\' :: inside, rest)
  | c :: rest => (pointyInside? rest).map fun (inside, rest) => (c :: inside, rest)

/-- A destination without brackets: up to a blank, a control character or a closing parenthesis of
the text around it. -/
def bareDestination? : Nat → List Char → Option (List Char × List Char)
  | 0, [] => some ([], [])
  | _ + 1, [] => none
  | nesting, '\\' :: c :: rest =>
    if Text.isAsciiPunctuation c then
      (bareDestination? nesting rest).map fun (inside, rest) => ('\\' :: c :: inside, rest)
    else (bareDestination? nesting (c :: rest)).map fun (inside, rest) => ('\\' :: inside, rest)
  | nesting, c :: rest =>
    if c ≤ ' ' then
      if nesting == 0 then some ([], c :: rest) else none
    else if c == '(' then
      if maxNesting < nesting then none
      else (bareDestination? (nesting + 1) rest).map fun (inside, rest) => (c :: inside, rest)
    else if c == ')' then
      match nesting with
      | 0 => some ([], c :: rest)
      | n + 1 => (bareDestination? n rest).map fun (inside, rest) => (c :: inside, rest)
    else (bareDestination? nesting rest).map fun (inside, rest) => (c :: inside, rest)

def destination? : List Char → Option (List Char × List Char)
  | '<' :: rest => pointyInside? rest
  | cs => bareDestination? 0 cs

/-- The inside of a title up to its closing mark. Blanks at the start of a line are left out. -/
def titleInside? (nested : Bool) (close : Char) :
    Bool → List Char → Option (List Char × List Char)
  | _, [] => none
  | _, '\\' :: c :: rest =>
    (titleInside? nested close (c == '\n') rest).map fun (inside, rest) =>
      ('\\' :: c :: inside, rest)
  | lineStart, c :: rest =>
    if c == close then some ([], rest)
    else if close == ')' && c == '(' && !nested then none
    else if lineStart && (c == ' ' || c == '\t') then titleInside? nested close true rest
    else (titleInside? nested close (c == '\n') rest).map fun (inside, rest) => (c :: inside, rest)

/-- A title in quotes or parentheses. In a definition parentheses may hold an opening one. -/
def title? (nested : Bool) : List Char → Option (List Char × List Char)
  | '"' :: rest => titleInside? nested '"' false rest
  | '\'' :: rest => titleInside? nested '\'' false rest
  | '(' :: rest => titleInside? nested ')' false rest
  | _ => none

/-- Blanks with at most one line end among them. -/
def skipSeparator (cs : List Char) : List Char :=
  match skipInlineBlanks cs with
  | '\n' :: rest => skipInlineBlanks rest
  | cs => cs

/-- Destination and title in parentheses after a link text. -/
def inlineTarget? : List Char → Option (Target × List Char)
  | '(' :: rest => do
    let (url, rest) ← destination? (skipSeparator rest)
    let rest := skipSeparator rest
    let (title, rest) := match title? false rest with
      | some (title, rest) => (title, skipSeparator rest)
      | none => ([], rest)
    match rest with
    | ')' :: rest => return (⟨unescapeAll url, unescapeAll title⟩, rest)
    | _ => none
  | _ => none

/-- Whether the line ends after blanks, and what follows the blanks and the line end. -/
def afterBlanks (cs : List Char) : Bool × List Char :=
  match skipInlineBlanks cs with
  | [] => (true, [])
  | '\n' :: rest => (true, skipInlineBlanks rest)
  | cs => (false, cs)

/-- A definition at the head of a paragraph, with what follows it up to the end of its last line. -/
def definition? : List Char → Option ((List Char × Target) × List Char)
  | '[' :: rest => do
    let (label, rest) ← label? rest
    match rest with
    | ':' :: rest =>
      let start := (afterBlanks rest).2
      let (url, rest) ← destination? start
      if rest.length == start.length then none
      else
        let bare : (List Char × Target) × List Char := ((label, ⟨unescapeAll url, []⟩), rest)
        let (newLine, after) := afterBlanks rest
        if !newLine && after.length == rest.length then none
        else
          match title? true after with
          | some (title, rest) =>
            if isBlankLine rest then
              return ((label, ⟨unescapeAll url, unescapeAll title⟩), rest)
            else if newLine then return bare
            else none
          | none => if newLine then return bare else none
    | _ => none
  | _ => none

/-- How many lines of a paragraph a definition at its head takes up. -/
def definitionLines? (content : List Char) : Option ((List Char × Target) × Nat) :=
  (definition? content).map fun (definition, rest) =>
    (definition, (content.take (content.length - rest.length)).count '\n' + 1)

end Reference

end StoryPress.Markdown
