import StoryPress.Condition.Scanner

/-! A condition is a row of pieces: ASCII blanks and the lexemes of its tokens. Whether a text is a
lexeme depends on the text after it, as names and numbers go on as far as they can and of two
operators that fit the longer one counts. Nothing here scans; `Fitted` and `Stuck` say what a scan
is to find. -/
namespace StoryPress.Condition

open StoryPress.Text (isAsciiBlank)
open StoryPress.Condition.Scanner (operators)
open StoryPress.Condition.Token (bytes isNameRest isNameStart isNumberRest numeral? ofWord
  startsNumber)

/-- The lexeme of a token, before the rest of a text. -/
inductive IsLexeme : Token → List Char → List Char → Prop
  | opening {rest : List Char} : IsLexeme .opening ['('] rest
  | closing {rest : List Char} : IsLexeme .closing [')'] rest
  /-- The text ends at the first quote of the kind that it starts with. -/
  | text {quote : Char} {inside rest : List Char} (kind : quote = '"' ∨ quote = '\'')
      (first : quote ∉ inside) :
      IsLexeme (.text (String.ofList inside)) (quote :: (inside ++ [quote])) rest
  | number {c : Char} {more rest : List Char} {n : Numeral} (starts : startsNumber c more = true)
      (all : ∀ d ∈ more, isNumberRest d = true) (ends : ∀ d ∈ rest.head?, isNumberRest d = false)
      (reads : numeral? (c :: more) = some n) : IsLexeme (.number n) (c :: more) rest
  | word {c : Char} {more rest : List Char} (starts : isNameStart c = true)
      (all : ∀ d ∈ more, isNameRest d = true) (ends : ∀ d ∈ rest.head?, isNameRest d = false) :
      IsLexeme (ofWord (c :: more)) (c :: more) rest
  | operator {symbol : String} {token : Token} {rest : List Char}
      (listed : (symbol, token) ∈ operators)
      (longest : ∀ other ∈ operators, other.1.toList <+: symbol.toList ++ rest →
        other.1.length ≤ symbol.length) : IsLexeme token symbol.toList rest

inductive Piece where
  | blank (c : Char)
  | lexeme (token : Token) (cs : List Char)

namespace Piece

def chars : Piece → List Char
  | blank c => [c]
  | lexeme _ cs => cs

def Fits : Piece → List Char → Prop
  | blank c, _ => isAsciiBlank c = true
  | lexeme token cs, rest => IsLexeme token cs rest

end Piece

def textOf (pieces : List Piece) : List Char := pieces.flatMap Piece.chars

/-- The tokens of pieces, each at the byte where its lexeme starts. -/
def placed (offset : Nat) : List Piece → List Placed
  | [] => []
  | .blank c :: pieces => placed (offset + c.utf8Size) pieces
  | .lexeme token cs :: pieces => (token, offset) :: placed (offset + bytes cs) pieces

/-- Every piece fits before the pieces after it and the rest of the text. -/
inductive Fitted : List Piece → List Char → Prop
  | nil {rest : List Char} : Fitted [] rest
  | cons {piece : Piece} {pieces : List Piece} {rest : List Char}
      (fits : piece.Fits (textOf pieces ++ rest)) (fitted : Fitted pieces rest) :
      Fitted (piece :: pieces) rest

/-- What starts a text at an offset cannot be completed, and the error that says so. -/
inductive Stuck (offset : Nat) : List Char → Error → Prop
  | unclosed {quote : Char} {rest : List Char} (kind : quote = '"' ∨ quote = '\'')
      (unclosed : quote ∉ rest) : Stuck offset (quote :: rest) (.unterminatedText offset)
  /-- Digits and points that are no numeral. -/
  | number {c : Char} {more rest : List Char} (starts : startsNumber c more = true)
      (all : ∀ d ∈ more, isNumberRest d = true) (ends : ∀ d ∈ rest.head?, isNumberRest d = false)
      (unread : numeral? (c :: more) = none) :
      Stuck offset (c :: (more ++ rest)) (.unexpectedToken (String.ofList (c :: more)) offset)
  /-- A character that starts nothing. -/
  | character {c : Char} {rest : List Char} (kept : isAsciiBlank c = false)
      (other : c ∉ ['(', ')', '"', '\'']) (number : startsNumber c rest = false)
      (name : isNameStart c = false) (operator : ∀ op ∈ operators, ¬op.1.toList <+: c :: rest) :
      Stuck offset (c :: rest) (.unexpectedToken (String.singleton c) offset)

/-- The place that an error names. -/
def Error.offset? : Error → Option Nat
  | unexpectedEnd => none
  | unexpectedToken _ offset => some offset
  | unterminatedText offset => some offset
  | tooDeep offset => some offset

end StoryPress.Condition
