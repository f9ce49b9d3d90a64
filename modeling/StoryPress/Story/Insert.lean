import StoryPress.Json.Printer
import StoryPress.Text.Blank
import StoryPress.Text.Span
import StoryPress.Text.Word

/-! A placeholder is a dotted name in braces, with blanks allowed inside the braces. It is replaced
by the text of the value its name resolves to; one that resolves to nothing stays as it is. Inserted
text is not searched for placeholders. -/
namespace StoryPress.Story.Insert

open StoryPress.Json (Value Lookup)
open StoryPress.Text

structure Placeholder where
  source : List Char
  name : List Char
  deriving DecidableEq, Repr

def isNameStart (c : Char) : Bool := c.isAlpha || c == '_' || c == '$'

def isNameRest (c : Char) : Bool := isWord c || c == '$'

/-- The rest of a dotted name: a dot counts only before a character of a name. -/
def nameRest : List Char → List Char
  | [] => []
  | [c] => if isNameRest c then [c] else []
  | c :: d :: rest =>
    if isNameRest c then c :: nameRest (d :: rest)
    else if c = '.' && isNameRest d then c :: d :: nameRest rest
    else []

def name? : List Char → Option (List Char)
  | [] => none
  | c :: rest => if isNameStart c then some (c :: nameRest rest) else none

def rule : SpanRule Placeholder
  | '{' :: rest =>
    let lead := rest.takeWhile isBlank
    match name? (rest.dropWhile isBlank) with
    | none => none
    | some name =>
      let after := (rest.dropWhile isBlank).drop name.length
      let trail := after.takeWhile isBlank
      match after.dropWhile isBlank with
      | '}' :: _ =>
        let inner := lead ++ name ++ trail ++ ['}']
        some (⟨'{' :: inner, name⟩, inner.length)
      | _ => none
  | _ => none

/-- Texts are inserted as they are, null as nothing, and any other value as JSON. -/
def valueText : Value → String
  | .text s => s
  | .null => ""
  | value => Json.compact value

def write (lookup : Lookup) (p : Placeholder) : List Char :=
  match Value.resolve lookup (String.ofList p.name) with
  | some value => (valueText value).toList
  | none => p.source

def substituteChars (lookup : Lookup) (cs : List Char) : List Char :=
  replaceSpans rule (write lookup) cs

def substitute (lookup : Lookup) (s : String) : String :=
  String.ofList (substituteChars lookup s.toList)

/-- Explicit inserts come before the variables of the story. -/
def layered (inserts : Json.Fields) (lookup : Lookup) : Lookup := fun name =>
  match inserts.get? name with
  | some value => some value
  | none => lookup name

theorem rule_eq_none_of_ne {c : Char} {rest : List Char} (h : c ≠ '{') :
    rule (c :: rest) = none := by
  unfold rule
  split
  · next heq => exact absurd (List.cons.inj heq).1 h
  · rfl

end StoryPress.Story.Insert
