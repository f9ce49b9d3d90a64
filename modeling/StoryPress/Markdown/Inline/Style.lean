import StoryPress.Markdown.Inline.Token

/-! Runs of style marks are paired by a stack of opened styles. A run that closes takes the
innermost run of its character that fits; runs opened after that one stay text. Straight quotes
become curly by a pass of their own, which does not look at styles. -/
namespace StoryPress.Markdown

/-- Inline content in which styles and quotes are still marks. -/
inductive Part where
  | done (content : Inline)
  | style (run : StyleRun)
  | quote (run : StyleRun)

namespace Part

def text (cs : List Char) : Part := .done (.text (String.ofList cs))

/-- Whether the next single quote that may open or close closes. -/
def nextCloses : List Part → Bool
  | [] => false
  | .quote run :: rest =>
    if run.char == '\'' && (run.canOpen || run.canClose) then run.canClose else nextCloses rest
  | _ :: rest => nextCloses rest

/-- Replaces quotes, given which kinds of quotes are open. A single quote opens only if another one
closes it, and is an apostrophe otherwise. -/
def curlQuotes (single double : Bool) : List Part → List Part
  | [] => []
  | .quote run :: rest =>
    if run.char == '\'' then
      if run.canClose && single then text ['’'] :: curlQuotes false double rest
      else if run.canOpen then
        let opens := nextCloses rest
        text [if opens then '‘' else '’'] :: curlQuotes opens double rest
      else text ['’'] :: curlQuotes single double rest
    else if run.canClose && double then text ['”'] :: curlQuotes single false rest
    else text ['“'] :: curlQuotes single (double || run.canOpen) rest
  | part :: rest => part :: curlQuotes single double rest

end Part

/-- A style that is open: its run, how many marks of it are left, and the content since, the last
first. -/
structure OpenStyle where
  run : StyleRun
  count : Nat
  content : List Inline

structure StyleStack where
  /-- The innermost style first. -/
  opened : List OpenStyle
  /-- Content outside all open styles, the last first. -/
  base : List Inline

namespace StyleStack

def empty : StyleStack := ⟨[], []⟩

def textOf (run : StyleRun) (count : Nat) : Inline :=
  .text (String.ofList (List.replicate count run.char))

def append (s : StyleStack) (content : List Inline) : StyleStack :=
  match s.opened with
  | [] => { s with base := content ++ s.base }
  | o :: rest => { s with opened := { o with content := content ++ o.content } :: rest }

/-- The content of an open style, with its marks as text. -/
def OpenStyle.literal (o : OpenStyle) : List Inline := o.content ++ [textOf o.run o.count]

def bothWays (run : StyleRun) : Bool := run.canOpen && run.canClose

/-- Whether a run may close an open style. Where one of the two could be either, their lengths must
not add up to a multiple of three unless both are one. -/
def fits (run : StyleRun) (o : OpenStyle) : Bool :=
  run.char == o.run.char && (run.char != '~' || run.length == o.run.length) &&
    ((!bothWays run && !bothWays o.run) || (run.length + o.run.length) % 3 != 0 ||
      run.length % 3 == 0)

/-- The innermost open style that fits, with all content since, and the styles around it. -/
def findFit (run : StyleRun) : List OpenStyle → Option (OpenStyle × List OpenStyle)
  | [] => none
  | o :: rest =>
    if fits run o then some (o, rest)
    else (findFit run rest).map fun (found, around) =>
      ({ found with content := OpenStyle.literal o ++ found.content }, around)

def joinTexts : List Inline → List Inline
  | .text s :: rest =>
    match joinTexts rest with
    | .text t :: more => .text (s ++ t) :: more
    | more => .text s :: more
  | i :: rest => i :: joinTexts rest
  | [] => []

/-- Puts styles around a content, from the inside out: two marks make strong text, one emphasis. -/
def wrapMarks : Nat → List Inline → List Inline
  | 0, content => content
  | 1, content => [.styled .emphasis content]
  | n + 2, content => wrapMarks n [.styled .strong content]

def wrap (char : Char) (marks : Nat) (content : List Inline) : List Inline :=
  if char == '~' then [.styled .strikethrough content] else wrapMarks marks content

def abandon (char : Char) : List OpenStyle → List Inline → StyleStack
  | [], base => ⟨[], base⟩
  | o :: rest, base =>
    let s := abandon char rest base
    if o.run.char == char then s.append (OpenStyle.literal o)
    else { s with opened := o :: s.opened }

/-- Closes styles with marks of a run, and gives the number of marks left over. Tildes that close
nothing end all styles opened by tildes. -/
def close (run : StyleRun) : Nat → StyleStack → Nat × StyleStack
  | 0, s => (0, s)
  | count + 1, s =>
    match findFit run s.opened with
    | none => (count + 1, if run.char == '~' then abandon '~' s.opened s.base else s)
    | some (o, around) =>
      let marks := max 1 (min (count + 1) o.count)
      let styled := wrap run.char marks (joinTexts o.content.reverse)
      let left := o.count - marks
      let s : StyleStack := { s with opened := around }
      let s := if left = 0 then s.append styled
        else { s with opened := ⟨o.run, left, styled⟩ :: around }
      close run (count + 1 - marks) s
  termination_by count => count
  decreasing_by omega

def put (s : StyleStack) : Part → StyleStack
  | .done i => s.append [i]
  | .quote run => s.append [textOf run 1]
  | .style run =>
    let (left, s) := if run.canClose then close run run.length s else (run.length, s)
    if left = 0 then s
    else if run.canOpen then { s with opened := ⟨run, left, []⟩ :: s.opened }
    else s.append [textOf run left]

def finish (s : StyleStack) : List Inline :=
  joinTexts (s.opened.flatMap OpenStyle.literal ++ s.base).reverse

end StyleStack

def Part.resolve (parts : List Part) : List Inline :=
  ((Part.curlQuotes false false parts).foldl StyleStack.put .empty).finish

end StoryPress.Markdown
