import StoryPress.Json.Value
import StoryPress.Text.Digit

/-! `Syntax.read?` checks the grammar of a whole text. What cannot become a value, a number beyond
the range of doubles, half of a surrogate pair or nesting of more than 127 levels, is refused by
`Syntax.toValue?` only where a value is asked for, so a part that nobody looks at may hold it. -/
namespace StoryPress.Json

open StoryPress.Number (Double)
open StoryPress.Text (digitValue isHexDigit numberOf)

inductive Syntax where
  | null
  | bool (b : Bool)
  | number (n : Option Number)
  | text (s : Option String)
  | array (items : List Syntax)
  | object (fields : List (Option String × Syntax))

namespace Syntax

def isSpace (c : Char) : Bool := c == ' ' || c == '\n' || c == '\t' || c == '\r'

def skipSpace (cs : List Char) : List Char := cs.dropWhile isSpace

def hexUnit? : List Char → Option (Nat × List Char)
  | a :: b :: c :: d :: rest =>
    if [a, b, c, d].all isHexDigit then some (numberOf 16 [a, b, c, d], rest) else none
  | _ => none

def simpleEscape? : Char → Option Char
  | '"' => some '"'
  | '\\' => some '\\'
  | '/' => some '/'
  | 'b' => some '\x08'
  | 'f' => some '\x0c'
  | 'n' => some '\n'
  | 'r' => some '\r'
  | 't' => some '\t'
  | _ => none

/-- A unit of a text: a character or a 16-bit unit given by its number. -/
inductive TextUnit where
  | char (c : Char)
  | code (n : Nat)

/-- The rest of a text after its opening quote. -/
def textUnits? : List Char → Option (List TextUnit × List Char)
  | [] => none
  | '"' :: rest => some ([], rest)
  | '\\' :: 'u' :: a :: b :: c :: d :: rest => do
    let (n, _) ← hexUnit? [a, b, c, d]
    let (units, rest) ← textUnits? rest
    return (.code n :: units, rest)
  | '\\' :: c :: rest => do
    let c ← simpleEscape? c
    let (units, rest) ← textUnits? rest
    return (.char c :: units, rest)
  | c :: rest =>
    if c.toNat < 32 || c == '\\' then none
    else (textUnits? rest).map fun (units, rest) => (.char c :: units, rest)

def isHighSurrogate (n : Nat) : Bool := 0xD800 ≤ n && n < 0xDC00
def isLowSurrogate (n : Nat) : Bool := 0xDC00 ≤ n && n < 0xE000

/-- Joins surrogate pairs; a half without its partner has no text. -/
def joinUnits? : List TextUnit → Option (List Char)
  | [] => some []
  | .char c :: rest => (joinUnits? rest).map (c :: ·)
  | .code n :: .code m :: rest =>
    if isHighSurrogate n && isLowSurrogate m then
      (joinUnits? rest).map (Char.ofNat (0x10000 + (n - 0xD800) * 0x400 + (m - 0xDC00)) :: ·)
    else if isHighSurrogate n || isLowSurrogate n then none
    else (joinUnits? (.code m :: rest)).map (Char.ofNat n :: ·)
  | .code n :: rest =>
    if isHighSurrogate n || isLowSurrogate n then none
    else (joinUnits? rest).map (Char.ofNat n :: ·)

/-- Reads digits into a significand below 2 ^ 64. The count is that of the digits taken in; the
first digit that would not fit and all after it are left out. -/
def significand (limit : Nat) : Nat → Nat → List Char → Nat × Nat
  | n, count, [] => (n, count)
  | n, count, c :: rest =>
    if limit ≤ n * 10 + digitValue c then (n, count)
    else significand limit (n * 10 + digitValue c) (count + 1) rest

/-- A number from its parts: sign, whole digits, digits after the point and signed exponent. A whole
number that fits 64 bits stays an integer. -/
def numberOf? (negative : Bool) (whole : List Char) (fraction : Option (List Char))
    (exponent : Option (Bool × List Char)) : Option Number :=
  let (n, taken) := significand UInt64.size 0 0 whole
  let complete := taken == whole.length
  let natural := match fraction, exponent with
    | none, none => complete
    | _, _ => false
  if natural && !negative then some (.int n)
  else if natural && 0 < n && n ≤ 1 <<< 63 then some (.int (-n))
  else
    let (n, scale) : Nat × Int :=
      match fraction with
      | none => (n, (whole.length - taken : Nat))
      | some digits =>
        let (m, more) := significand UInt64.size n 0 digits
        (m, ((whole.length - taken : Nat) : Int) - more)
    let raised : Int :=
      match exponent with
      | none => 0
      | some (down, digits) =>
        let e := numberOf 10 digits
        if down then -e else e
    if n == 0 then some (.real ⟨negative, 0⟩)
    else (Double.ofScaled? negative n (scale + raised)).map .real

/-- A number: no leading zeros, digits on both sides of the point, digits in the exponent. -/
def number? (cs : List Char) : Option (Syntax × List Char) :=
  let (negative, cs) := match cs with
    | '-' :: rest => (true, rest)
    | _ => (false, cs)
  let whole := cs.takeWhile Char.isDigit
  let cs := cs.dropWhile Char.isDigit
  if whole.isEmpty || (whole.head? == some '0' && 1 < whole.length) then none
  else
    let afterFraction : Option (Option (List Char) × List Char) := match cs with
      | '.' :: rest =>
        let digits := rest.takeWhile Char.isDigit
        if digits.isEmpty then none else some (some digits, rest.dropWhile Char.isDigit)
      | _ => some (none, cs)
    afterFraction.bind fun (fraction, cs) =>
      let exponent (rest : List Char) : Option (Option (Bool × List Char) × List Char) :=
        let (down, rest) := match rest with
          | '-' :: rest => (true, rest)
          | '+' :: rest => (false, rest)
          | _ => (false, rest)
        let digits := rest.takeWhile Char.isDigit
        if digits.isEmpty then none else some (some (down, digits), rest.dropWhile Char.isDigit)
      let afterExponent := match cs with
        | 'e' :: rest => exponent rest
        | 'E' :: rest => exponent rest
        | _ => some (none, cs)
      afterExponent.map fun (exponent, cs) =>
        (number (numberOf? negative whole fraction exponent), cs)

mutual

/-- One value at the start of a text. The fuel bounds the depth of nesting. -/
def value? : Nat → List Char → Option (Syntax × List Char)
  | 0, _ => none
  | fuel + 1, cs =>
    match skipSpace cs with
    | 'n' :: 'u' :: 'l' :: 'l' :: rest => some (null, rest)
    | 't' :: 'r' :: 'u' :: 'e' :: rest => some (bool true, rest)
    | 'f' :: 'a' :: 'l' :: 's' :: 'e' :: rest => some (bool false, rest)
    | '"' :: rest => (textUnits? rest).map fun (units, rest) =>
        (text ((joinUnits? units).map String.ofList), rest)
    | '[' :: rest =>
      match skipSpace rest with
      | ']' :: rest => some (array [], rest)
      | rest => (items? fuel rest).map fun (items, rest) => (array items, rest)
    | '{' :: rest =>
      match skipSpace rest with
      | '}' :: rest => some (object [], rest)
      | rest => (fields? fuel rest).map fun (fields, rest) => (object fields, rest)
    | rest => number? rest

def items? : Nat → List Char → Option (List Syntax × List Char)
  | 0, _ => none
  | fuel + 1, cs => do
    let (item, rest) ← value? fuel cs
    match skipSpace rest with
    | ']' :: rest => return ([item], rest)
    | ',' :: rest =>
      let (items, rest) ← items? fuel rest
      return (item :: items, rest)
    | _ => none

def fields? : Nat → List Char → Option (List (Option String × Syntax) × List Char)
  | 0, _ => none
  | fuel + 1, cs =>
    match skipSpace cs with
    | '"' :: rest => do
      let (units, rest) ← textUnits? rest
      let name := (joinUnits? units).map String.ofList
      match skipSpace rest with
      | ':' :: rest =>
        let (item, rest) ← value? fuel rest
        match skipSpace rest with
        | '}' :: rest => return ([(name, item)], rest)
        | ',' :: rest =>
          let (fields, rest) ← fields? fuel rest
          return ((name, item) :: fields, rest)
        | _ => none
      | _ => none
    | _ => none

end

/-- The one value that a text holds. Each step of the reader takes a character. -/
def read? (s : String) : Option Syntax :=
  let cs := s.toList
  match value? (2 * cs.length + 2) cs with
  | some (syn, rest) => if (skipSpace rest).isEmpty then some syn else none
  | none => none

mutual

/-- The value meant, with nesting below the given number of levels. Of two fields with one name
the later counts. -/
def toValue? (levels : Nat) : Syntax → Option Value
  | null => some .null
  | bool b => some (.bool b)
  | number n => n.map .number
  | text s => s.map .text
  | array items => if levels ≤ 1 then none else (toValues? (levels - 1) items).map .array
  | object fields =>
    if levels ≤ 1 then none
    else (toFields? (levels - 1) fields).map fun fields => .object (Fields.ofPairs fields)

def toValues? (levels : Nat) : List Syntax → Option (List Value)
  | [] => some []
  | item :: rest => do
    let item ← toValue? levels item
    let rest ← toValues? levels rest
    return item :: rest

def toFields? (levels : Nat) : List (Option String × Syntax) → Option (List (String × Value))
  | [] => some []
  | (name, item) :: rest => do
    let name ← name
    let item ← toValue? levels item
    let rest ← toFields? levels rest
    return (name, item) :: rest

end

/-- Nesting must stay below this many levels. -/
def levelLimit : Nat := 128

end Syntax

def read? (s : String) : Option Value := (Syntax.read? s).bind (Syntax.toValue? Syntax.levelLimit)

end StoryPress.Json
