import StoryPress.Json.Value
import StoryPress.Number.Shortest

namespace StoryPress.Json

open StoryPress.Number (Layout)

/-- Doubles always show a point or an exponent; they are positional from `1e-5` to below `1e16`. -/
def realLayout : Layout := ⟨some (-4), some 16, true⟩

def Number.write : Number → String
  | .int i => toString i
  | .real d => d.write realLayout

/-- The quote, the backslash and the control characters are escaped. -/
def escapeTextChar (c : Char) : List Char :=
  if c == '"' then ['\\', '"']
  else if c == '\\' then ['\\', '\\']
  else if c == '\x08' then ['\\', 'b']
  else if c == '\x0c' then ['\\', 'f']
  else if c == '\n' then ['\\', 'n']
  else if c == '\r' then ['\\', 'r']
  else if c == '\t' then ['\\', 't']
  else if c.toNat < 32 then ['\\', 'u', '0', '0', Nat.digitChar (c.toNat / 16),
    Nat.digitChar (c.toNat % 16)]
  else [c]

def quote (s : String) : String :=
  "\"" ++ String.ofList (s.toList.flatMap escapeTextChar) ++ "\""

mutual

def compact : Value → String
  | .null => "null"
  | .bool b => if b then "true" else "false"
  | .number n => n.write
  | .text s => quote s
  | .array items => "[" ++ ",".intercalate (compactItems items) ++ "]"
  | .object fields => "\x7b" ++ ",".intercalate (compactFields fields) ++ "\x7d"

def compactItems : List Value → List String
  | [] => []
  | item :: rest => compact item :: compactItems rest

def compactFields : List (String × Value) → List String
  | [] => []
  | (name, value) :: rest => (quote name ++ ":" ++ compact value) :: compactFields rest

end

private def lineOf (depth : Nat) (s : String) : String :=
  "\n" ++ String.ofList (List.replicate (2 * depth) ' ') ++ s

mutual

/-- A value that stands at the given depth. -/
def prettyAt (depth : Nat) : Value → String
  | .null => "null"
  | .bool b => if b then "true" else "false"
  | .number n => n.write
  | .text s => quote s
  | .array [] => "[]"
  | .array (item :: items) =>
    "[" ++ ",".intercalate (prettyItems (depth + 1) (item :: items)) ++ lineOf depth "]"
  | .object [] => "\x7b\x7d"
  | .object (entry :: fields) =>
    "\x7b" ++ ",".intercalate (prettyFields (depth + 1) (entry :: fields)) ++ lineOf depth "\x7d"

def prettyItems (depth : Nat) : List Value → List String
  | [] => []
  | item :: rest => lineOf depth (prettyAt depth item) :: prettyItems depth rest

def prettyFields (depth : Nat) : List (String × Value) → List String
  | [] => []
  | (name, value) :: rest =>
    lineOf depth (quote name ++ ": " ++ prettyAt depth value) :: prettyFields depth rest

end

def pretty (value : Value) : String := prettyAt 0 value

end StoryPress.Json
