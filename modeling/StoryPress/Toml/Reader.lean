import StoryPress.Toml.Quoted
import StoryPress.Toml.Table

/-! `Toml.read?` reads a whole document. Of scalars it knows booleans and strings: numbers, dates
and arrays of tables are refused, since no setting is one. -/
namespace StoryPress.Toml

open Quoted (isSpace isForbidden lineEnd?)

def skipSpace (cs : List Char) : List Char := cs.dropWhile isSpace

/-- What follows a comment up to the end of its line, or the text itself if none starts here. -/
def afterComment? : List Char → Option (List Char)
  | '#' :: rest =>
    let comment := rest.takeWhile (!isForbidden ·)
    some (rest.drop comment.length)
  | cs => some cs

/-- The end of a line, with blanks and a comment before it. -/
def endOfLine? (cs : List Char) : Option (List Char) :=
  (afterComment? (skipSpace cs)).bind fun rest => if rest.isEmpty then some [] else lineEnd? rest

def skipLines : Nat → List Char → List Char
  | 0, cs => cs
  | fuel + 1, cs =>
    match (afterComment? (skipSpace cs)).bind lineEnd? with
    | some rest => skipLines fuel rest
    | none => skipSpace cs

def isBareKey (c : Char) : Bool := c.isAlphanum || c == '_' || c == '-'

def keyPart? (cs : List Char) : Option (String × List Char) :=
  let bare := cs.takeWhile isBareKey
  if bare.isEmpty then (Quoted.short? cs).map fun (key, rest) => (String.ofList key, rest)
  else some (String.ofList bare, cs.drop bare.length)

/-- A key whose parts are joined by dots. -/
def key? : Nat → List Char → Option (List String × List Char)
  | 0, _ => none
  | fuel + 1, cs => do
    let (part, rest) ← keyPart? (skipSpace cs)
    match skipSpace rest with
    | '.' :: rest =>
      let (parts, rest) ← key? fuel rest
      return (part :: parts, rest)
    | rest => return ([part], rest)

mutual

def value? : Nat → List Char → Option (Value × List Char)
  | 0, _ => none
  | fuel + 1, cs =>
    match cs with
    | 't' :: 'r' :: 'u' :: 'e' :: rest => some (.bool true, rest)
    | 'f' :: 'a' :: 'l' :: 's' :: 'e' :: rest => some (.bool false, rest)
    | '[' :: rest => (items? fuel rest).map fun (items, rest) => (.array items, rest)
    | '{' :: rest => (fields? fuel [] rest).map fun (entries, rest) =>
        (.table (fieldsOf entries), rest)
    | cs => (Quoted.any? cs).map fun (s, rest) => (.text (String.ofList s), rest)

def items? : Nat → List Char → Option (List Value × List Char)
  | 0, _ => none
  | fuel + 1, cs =>
    match skipLines cs.length cs with
    | ']' :: rest => some ([], rest)
    | cs => do
      let (item, rest) ← value? fuel cs
      match skipLines rest.length rest with
      | ']' :: rest => return ([item], rest)
      | ',' :: rest =>
        let (items, rest) ← items? fuel rest
        return (item :: items, rest)
      | _ => none

def fields? : Nat → Entries → List Char → Option (Entries × List Char)
  | 0, _, _ => none
  | fuel + 1, entries, cs =>
    match skipLines cs.length cs with
    | '}' :: rest => some (entries, rest)
    | cs => do
      let (key, rest) ← key? cs.length cs
      match rest with
      | '=' :: rest =>
        let (v, rest) ← value? fuel (skipSpace rest)
        let entries ← entries.assign v key
        match skipLines rest.length rest with
        | '}' :: rest => return (entries, rest)
        | ',' :: rest => fields? fuel entries rest
        | _ => none
      | _ => none

end

/-- The statement of a line and the lines after it. -/
def statement? : List Char → Option (Statement × List Char)
  | '[' :: rest => do
    let (key, rest) ← key? rest.length rest
    match rest with
    | ']' :: rest => return (.header key, ← endOfLine? rest)
    | _ => none
  | cs => do
    let (key, rest) ← key? cs.length cs
    match rest with
    | '=' :: rest =>
      let (v, rest) ← value? (rest.length + 1) (skipSpace rest)
      return (.assign key v, ← endOfLine? rest)
    | _ => none

/-- All statements of a text. Every line takes a character at least. -/
def statements? : Nat → List Char → Option (List Statement)
  | 0, _ => none
  | fuel + 1, cs =>
    match skipLines cs.length cs with
    | [] => some []
    | '#' :: rest => if (afterComment? ('#' :: rest)).all (·.isEmpty) then some [] else none
    | cs => do
      let (statement, rest) ← statement? cs
      return statement :: (← statements? fuel rest)

/-- The table that a text describes. A byte order mark may stand before it. -/
def read? (s : String) : Option (List (String × Value)) :=
  let cs := match s.toList with
    | '\ufeff' :: rest => rest
    | cs => cs
  (statements? (cs.length + 1) cs).bind tableOf

end StoryPress.Toml
