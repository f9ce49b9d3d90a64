import StoryPress.Text.Digit

namespace StoryPress.Toml.Quoted

/-- The character with a code point of so many hexadecimal digits. -/
def codePoint? (digits : Nat) (cs : List Char) : Option Char :=
  let code := Text.numberOf 16 (cs.take digits)
  if digits ≤ cs.length && (cs.take digits).all Text.isHexDigit &&
      (code < 0xD800 || (0xE000 ≤ code && code < 0x110000)) then
    some (Char.ofNat code)
  else none

/-- The character of an escape, and how many characters follow its letter. -/
def escape? : List Char → Option (Char × Nat)
  | [] => none
  | c :: rest =>
    match c with
    | 'b' => some ('\x08', 0)
    | 't' => some ('\t', 0)
    | 'n' => some ('\n', 0)
    | 'f' => some ('\x0c', 0)
    | 'r' => some ('\r', 0)
    | 'e' => some ('\x1b', 0)
    | '"' => some ('"', 0)
    | '\\' => some ('\\', 0)
    | 'x' => (codePoint? 2 rest).map fun c => (c, 2)
    | 'u' => (codePoint? 4 rest).map fun c => (c, 4)
    | 'U' => (codePoint? 8 rest).map fun c => (c, 8)
    | _ => none

/-- Control characters other than the tab stand in no string and no comment. -/
def isForbidden (c : Char) : Bool := (c.toNat < 32 && c != '\t') || c.toNat == 127

def oneLine? (quote : Char) (escapes : Bool) : Nat → List Char → Option (List Char × List Char)
  | 0, _ => none
  | _, [] => none
  | fuel + 1, c :: rest =>
    if c == quote then some ([], rest)
    else if c == '\\' && escapes then do
      let (c, more) ← escape? rest
      let (inside, rest) ← oneLine? quote escapes fuel (rest.drop (more + 1))
      return (c :: inside, rest)
    else if isForbidden c then none
    else (oneLine? quote escapes fuel rest).map fun (inside, rest) => (c :: inside, rest)

def isSpace (c : Char) : Bool := c == ' ' || c == '\t'

def lineEnd? : List Char → Option (List Char)
  | '\n' :: rest => some rest
  | '\r' :: '\n' :: rest => some rest
  | _ => none

/-- A backslash at the end of a line takes all blanks and line ends after it. -/
def continued? (cs : List Char) : Option (List Char) :=
  (lineEnd? (cs.dropWhile isSpace)).map fun rest =>
    rest.dropWhile fun c => isSpace c || c == '\n' || c == '\r'

/-- The rest of a string of several lines. It may end in up to two quotes of its own. -/
def lines? (quote : Char) (escapes : Bool) : Nat → List Char → Option (List Char × List Char)
  | 0, _ => none
  | _, [] => none
  | fuel + 1, c :: rest =>
    if c == quote then
      let quotes := ((c :: rest).takeWhile (· == quote)).length
      let after := (c :: rest).drop quotes
      if 3 ≤ quotes then
        if quotes ≤ 5 then some (List.replicate (quotes - 3) quote, after) else none
      else
        (lines? quote escapes fuel after).map fun (inside, rest) =>
          (List.replicate quotes quote ++ inside, rest)
    else if c == '\\' && escapes then
      match continued? rest with
      | some rest => lines? quote escapes fuel rest
      | none => do
        let (c, more) ← escape? rest
        let (inside, rest) ← lines? quote escapes fuel (rest.drop (more + 1))
        return (c :: inside, rest)
    else
      match lineEnd? (c :: rest) with
      | some rest =>
        (lines? quote escapes fuel rest).map fun (inside, rest) => ('\n' :: inside, rest)
      | none =>
        if isForbidden c then none
        else (lines? quote escapes fuel rest).map fun (inside, rest) => (c :: inside, rest)

def short? : List Char → Option (List Char × List Char)
  | '"' :: rest => oneLine? '"' true (rest.length + 1) rest
  | '\'' :: rest => oneLine? '\'' false (rest.length + 1) rest
  | _ => none

/-- A string of either kind. A line end right after triple quotes is left out. -/
def any? (cs : List Char) : Option (List Char × List Char) :=
  let start (rest : List Char) : List Char := (lineEnd? rest).getD rest
  match cs with
  | '"' :: '"' :: '"' :: rest => lines? '"' true (rest.length + 1) (start rest)
  | '\'' :: '\'' :: '\'' :: rest => lines? '\'' false (rest.length + 1) (start rest)
  | cs => short? cs

end StoryPress.Toml.Quoted
