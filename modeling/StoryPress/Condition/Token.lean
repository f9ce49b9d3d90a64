import StoryPress.Number.Shortest
import StoryPress.Text.Blank
import StoryPress.Text.Digit

/-! `tokenize` cuts a condition into tokens, each with its offset in UTF-8 bytes. A token covers its
first character and a number of further ones, which `lexeme?` finds; so the tokens' lexemes and the
ASCII blanks between them make up the source. -/
namespace StoryPress.Condition

open StoryPress.Number (Double)

/-- Why a text is not a condition. Offsets count UTF-8 bytes. -/
inductive Error where
  | unexpectedEnd
  | unexpectedToken (token : String) (offset : Nat)
  | unterminatedText (offset : Nat)
  | tooDeep (offset : Nat)
  deriving DecidableEq, Repr

def Error.message : Error → String
  | unexpectedEnd => "unexpected end of condition"
  | unexpectedToken token offset =>
    "unexpected '" ++ token ++ "' at offset " ++ toString offset
  | unterminatedText offset => "unterminated string starting at offset " ++ toString offset
  | tooDeep offset => "condition nests too deeply at offset " ++ toString offset

/-- What a number literal is read as; beyond the range of doubles only the sign is left. -/
inductive Numeral where
  | finite (d : Double)
  | infinite (negative : Bool)
  deriving DecidableEq, Repr

namespace Numeral

/-- All digits are written out, and a point only before a fraction. -/
def layout : Number.Layout := ⟨none, none, false⟩

def write : Numeral → String
  | finite d => d.write layout
  | infinite negative => if negative then "-inf" else "inf"

end Numeral

inductive Comparison where
  | eq | ne | lt | le | gt | ge
  deriving DecidableEq, Repr

inductive Token where
  | number (n : Numeral)
  | text (s : String)
  | name (s : String)
  | compare (op : Comparison)
  | and
  | or
  | not
  | opening
  | closing
  deriving DecidableEq, Repr

namespace Comparison

def symbol : Comparison → String
  | eq => "=="
  | ne => "!="
  | lt => "<"
  | le => "<="
  | gt => ">"
  | ge => ">="

end Comparison

namespace Token

def describe : Token → String
  | number n => n.write
  | text s => "\"" ++ s ++ "\""
  | name s => s
  | compare op => op.symbol
  | and => "&&"
  | or => "||"
  | not => "!"
  | opening => "("
  | closing => ")"

def isNameStart (c : Char) : Bool := c.isAlpha || c == '_' || c == '$'

def isNameRest (c : Char) : Bool := c.isAlphanum || c == '_' || c == '$' || c == '.'

def isNumberRest (c : Char) : Bool := c.isDigit || c == '.'

/-- The words `and`, `or` and `not` are operators; any other word is a name. -/
def ofWord (word : List Char) : Token :=
  if word = ['a', 'n', 'd'] then and
  else if word = ['o', 'r'] then or
  else if word = ['n', 'o', 't'] then not
  else name (String.ofList word)

def digitValues (cs : List Char) : List Nat := cs.map Text.digitValue

/-- An optional minus and digits with at most one point among them. -/
def numeral? (cs : List Char) : Option Numeral :=
  let (negative, digits) := match cs with
    | '-' :: rest => (true, rest)
    | _ => (false, cs)
  let whole := digits.takeWhile Char.isDigit
  let fraction := (digits.dropWhile Char.isDigit).drop 1
  if fraction.all Char.isDigit then
    match Double.ofDigits? negative (digitValues whole) (digitValues fraction) with
    | some d => some (.finite d)
    | none => some (.infinite negative)
  else none

/-- An operator, by its first character and what follows, with the count of further characters. A
single equals sign compares like two. -/
def operator? : Char → List Char → Option (Token × Nat)
  | '=', '=' :: _ => some (compare .eq, 1)
  | '!', '=' :: _ => some (compare .ne, 1)
  | '<', '=' :: _ => some (compare .le, 1)
  | '>', '=' :: _ => some (compare .ge, 1)
  | '&', '&' :: _ => some (and, 1)
  | '|', '|' :: _ => some (or, 1)
  | '<', _ => some (compare .lt, 0)
  | '>', _ => some (compare .gt, 0)
  | '!', _ => some (not, 0)
  | '=', _ => some (compare .eq, 0)
  | _, _ => none

/-- Whether a number literal starts here: a digit, or a minus before a digit. -/
def startsNumber (c : Char) (rest : List Char) : Bool :=
  c.isDigit || (c == '-' && (rest.head?.map Char.isDigit).getD false)

/-- The token that starts with a character that is no blank, and how many characters of the rest it
covers besides. -/
def lexeme (offset : Nat) (c : Char) (rest : List Char) : Except Error (Token × Nat) :=
  if c == '(' then .ok (opening, 0)
  else if c == ')' then .ok (closing, 0)
  else if c == '"' || c == '\'' then
    let inside := rest.takeWhile (· != c)
    if inside.length < rest.length then .ok (text (String.ofList inside), inside.length + 1)
    else .error (.unterminatedText offset)
  else if startsNumber c rest then
    let more := rest.takeWhile isNumberRest
    match numeral? (c :: more) with
    | some n => .ok (number n, more.length)
    | none => .error (.unexpectedToken (String.ofList (c :: more)) offset)
  else if isNameStart c then
    let more := rest.takeWhile isNameRest
    .ok (ofWord (c :: more), more.length)
  else match operator? c rest with
    | some found => .ok found
    | none => .error (.unexpectedToken (String.singleton c) offset)

/-- The size of a text in UTF-8. -/
def bytes : List Char → Nat
  | [] => 0
  | c :: rest => c.utf8Size + bytes rest

end Token

/-- A token and the byte offset where it starts. -/
abbrev Placed := Token × Nat

def tokens (offset : Nat) : List Char → Except Error (List Placed)
  | [] => .ok []
  | c :: rest =>
    if Text.isAsciiBlank c then tokens (offset + c.utf8Size) rest
    else match Token.lexeme offset c rest with
      | .error e => .error e
      | .ok (token, count) =>
        match tokens (offset + Token.bytes (c :: rest.take count)) (rest.drop count) with
        | .error e => .error e
        | .ok more => .ok ((token, offset) :: more)
  termination_by cs => cs.length
  decreasing_by
    all_goals
      simp only [List.length_cons, List.length_drop]
      omega

def tokenize (source : String) : Except Error (List Placed) := tokens 0 source.toList

end StoryPress.Condition
