import StoryPress.Markdown.Inline.Style
import StoryPress.Markdown.RawHtml
import StoryPress.Markdown.Reference

/-! Tokens are taken from left to right. Code, raw HTML and addresses cover the tokens inside them.
A closing bracket looks back to the last open one and makes a link or an image of the content
between, if a destination follows or the label is defined. -/
namespace StoryPress.Markdown.InlineReader

structure Bracket where
  image : Bool
  /-- Whether it may still make a link: no link contains another. -/
  active : Bool
  label : List Char
  /-- The content since, the last part first. -/
  parts : List Part

structure State where
  /-- The innermost bracket first. -/
  brackets : List Bracket
  parts : List Part
  /-- Closing brackets of labels that have been looked up, by how much text follows them. -/
  lookedUp : List Nat

namespace State

def start : State := ⟨[], [], []⟩

def add (s : State) (parts : List Part) : State :=
  match s.brackets with
  | [] => { s with parts := parts ++ s.parts }
  | b :: rest => { s with brackets := { b with parts := parts ++ b.parts } :: rest }

def text (s : State) (cs : List Char) : State := s.add [.text cs]

def Bracket.literal (b : Bracket) : List Part :=
  b.parts ++ [.text (if b.image then ['!', '['] else ['['])]

def finish (s : State) : List Inline :=
  Part.resolve (s.brackets.flatMap Bracket.literal ++ s.parts).reverse

def link (s : State) (b : Bracket) (target : Target) : State :=
  let content := Part.resolve b.parts.reverse
  let url := String.ofList target.url
  let title := String.ofList target.title
  if b.image then s.add [.done (.image url title content)]
  else
    let brackets := s.brackets.map fun outer =>
      if outer.image then outer else { outer with active := false }
    { s with brackets }.add [.done (.link url title content)]

end State

/-- How many tokens a text covers that leaves so many characters. -/
def covered (left : Nat) (tokens : List Token) : Nat :=
  (tokens.takeWhile fun t => left ≤ t.left).length

/-- The text of a code span: line ends are spaces, and one space on each side is left out unless all
is spaces. -/
def codeText (raw : List Char) : List Char :=
  let line := raw.map fun c => if c == '\n' then ' ' else c
  if line.head? == some ' ' && line.getLast? == some ' ' && !line.all (· == ' ') then
    (line.drop 1).dropLast
  else line

def closingBackticks? (width : Nat) (tokens : List Token) : Option Nat :=
  tokens.findIdx? fun t => t.width == width &&
    match t.mark with
    | .backticks _ => true
    | _ => false

/-- A code span, and how many tokens it covers after the first. Of backticks after a backslash the
first is text. -/
def code (escaped : Bool) (t : Token) (rest : List Token) : List Part × Nat :=
  let width := if escaped then t.width - 1 else t.width
  let closing := if width = 0 then none else closingBackticks? width rest
  match closing.bind fun i => rest[i]?.map fun close => (i, close) with
  | none => ([.text (List.replicate t.width '`')], 0)
  | some (i, close) =>
    let span := Part.done (.code (String.ofList
      (codeText (t.after.take (t.left - close.left - close.width)))))
    (if escaped then [span, .text ['`']] else [span], i + 1)

/-- An address or raw HTML, and how many tokens it covers after the bracket. -/
def angle (t : Token) (rest : List Token) : List Part × Nat :=
  if rest.isEmpty then ([.text ['<']], 0)
  else
    match RawHtml.autolink? t.after with
    | some (address, after) =>
      let address := String.ofList address
      ([.done (.link address "" [.text address])], covered after.length rest)
    | none =>
      match RawHtml.inline? t.after with
      | some after =>
        ([.done (.rawHtml (String.ofList (t.start.take (t.left + 1 - after.length))))],
          covered after.length rest)
      | none => ([.text ['<']], 0)

/-- The destination of a link by the text after its closing bracket, with the number of tokens that
it covers. -/
def inlineTarget? (close : Token) (rest : List Token) : Option (Target × Nat) :=
  (Reference.inlineTarget? close.after).map fun (target, after) =>
    (target, covered after.length rest)

/-- The label that a link text is itself. -/
def ownLabel? (b : Bracket) (close : Token) : Option (List Char) :=
  match Reference.label? b.label with
  | some (label, after) => if after.length = close.left then some label else none
  | none => none

/-- Where to look up a link without a destination: a label, how many tokens it covers, and the text
left after its closing bracket if it stands in brackets of its own. -/
def labelAfter? (b : Bracket) (close : Token) (viable : Bool) (rest : List Token) :
    Option (List Char × Nat × Option Nat) :=
  let own (width : Nat) :=
    if viable then (ownLabel? b close).map fun label => (label, width, none) else none
  match rest with
  | [] => own 0
  | next :: _ =>
    match next.start with
    | '[' :: ']' :: _ => own 2
    | '[' :: inside =>
      match Reference.label? inside with
      | some (label, after) => some (label, covered after.length rest, some after.length)
      | none => own 0
    | _ => own 0

/-- A closing bracket: the new state and the number of tokens covered after it. -/
def closeLabel (references : References) (s : State) (t : Token) (rest : List Token) :
    State × Nat :=
  match s.brackets with
  | [] => (s.text [']'], 0)
  | b :: outer =>
    let around : State := { s with brackets := outer }
    let plain (s : State) : State × Nat := ((s.add (State.Bracket.literal b)).text [']'], 0)
    if !b.active then plain around
    else
      match inlineTarget? t rest with
      | some (target, width) => (around.link b target, width)
      | none =>
        match labelAfter? b t (!s.lookedUp.contains t.left) rest with
        | none => plain around
        | some (label, width, seen) =>
          match references.lookup label with
          | some target => (around.link b target, width)
          | none => plain { around with lookedUp := seen.toList ++ s.lookedUp }

def step (references : References) (s : State) (t : Token) (rest : List Token) : State × Nat :=
  match t.mark with
  | .literal cs => (s.text cs, 0)
  | .softBreak => (s.add [.done .softBreak], 0)
  | .hardBreak => (s.add [.done .hardBreak], 0)
  | .style run => (s.add [.style run], 0)
  | .quote run => (s.add [.quote run], 0)
  | .backticks escaped =>
    let (parts, width) := code escaped t rest
    (s.add parts, width)
  | .angle =>
    let (parts, width) := angle t rest
    (s.add parts, width)
  | .openLabel image => ({ s with brackets := ⟨image, true, t.after, []⟩ :: s.brackets }, 0)
  | .closeLabel => closeLabel references s t rest

def run (references : References) (s : State) : List Token → State
  | [] => s
  | t :: rest =>
    let (s, width) := step references s t rest
    run references s (rest.drop width)
  termination_by tokens => tokens.length
  decreasing_by
    simp only [List.length_cons, List.length_drop]
    omega

def read (options : Options) (references : References) (text : List Char) : List Inline :=
  (run references .start (Token.ofChars options none text.length text)).finish

end StoryPress.Markdown.InlineReader
