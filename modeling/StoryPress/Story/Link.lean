import StoryPress.Text.Blank
import StoryPress.Text.Escape
import StoryPress.Text.Span
import StoryPress.Text.Split

/-! A link stands in double brackets on one line and ends at the first closing pair. It names a
target and, in one of three forms, a label: `[[label->target]]`, `[[target<-label]]`,
`[[label|target]]`. A target with a URL scheme becomes the address; any other target is the name of
a passage. -/
namespace StoryPress.Story

open StoryPress.Text

structure Link where
  label : List Char
  target : List Char
  deriving DecidableEq, Repr

namespace Link

/-- The text before the first closing pair, if that comes before the end of the line. -/
def inside? : List Char → Option (List Char)
  | [] => none
  | ']' :: ']' :: _ => some []
  | c :: rest => if c = '\n' then none else (inside? rest).map (c :: ·)

/-- The forms are tried in order, each at the first place of its separator. -/
def parts (source : List Char) : List Char × List Char :=
  match splitOnce ['-', '>'] source with
  | some (label, target) => (label, target)
  | none =>
    match splitOnce ['<', '-'] source with
    | some (target, label) => (label, target)
    | none =>
      match splitOnce ['|'] source with
      | some (label, target) => (label, target)
      | none => (source, source)

def ofSource (source : List Char) : Link :=
  ⟨trimChars (parts source).1, trimChars (parts source).2⟩

def rule : SpanRule Link
  | '[' :: '[' :: rest => (inside? rest).map fun inner => (ofSource inner, inner.length + 3)
  | _ => none

def isSchemeRest (c : Char) : Bool := c.isAlphanum || c == '+' || c == '.' || c == '-'

/-- A letter, further letters, digits or `+.-`, and `://`. -/
def hasScheme : List Char → Bool
  | [] => false
  | c :: rest => c.isAlpha && [':', '/', '/'].isPrefixOf (rest.dropWhile isSchemeRest)

/-- The anchor of a link. Label and target are escaped. -/
def anchor (link : Link) : List Char :=
  if hasScheme link.target then
    "<a href=\"".toList ++ escapeChars link.target ++ "\">".toList ++ escapeChars link.label ++
      "</a>".toList
  else
    "<a href=\"javascript:void(0)\" data-folio-go=\"".toList ++ escapeChars link.target ++
      "\">".toList ++ escapeChars link.label ++ "</a>".toList

def substituteChars (cs : List Char) : List Char := replaceSpans rule anchor cs

def substitute (s : String) : String := String.ofList (substituteChars s.toList)

theorem rule_eq_none_of_ne {c : Char} {rest : List Char} (h : c ≠ '[') :
    rule (c :: rest) = none := by
  unfold rule
  split
  · next heq => exact absurd (List.cons.inj heq).1 h
  · rfl

end Link

end StoryPress.Story
