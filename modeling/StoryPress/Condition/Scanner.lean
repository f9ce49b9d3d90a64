import StoryPress.Condition.Token

/-! The scanner walks over the UTF-8 bytes of a condition. It looks at single bytes to see what
starts where it stands and how far it goes, and it cuts names, numbers and texts out of the source
by byte offsets. A cut inside a character and a pass that does not move are outcomes of their own
here, so that a scan without them is something to prove. -/
namespace StoryPress.Condition.Scanner

open StoryPress.Text (isAsciiBlank)
open StoryPress.Condition.Token (bytes isNameRest isNameStart isNumberRest numeral? ofWord)

/-- Why a scan gives no tokens. -/
inductive Stop where
  /-- A slice starts or ends inside a character, or beyond the end. -/
  | cut
  /-- A pass goes on where it started, and so without end. -/
  | idle
  | refused (e : Error)
  deriving DecidableEq, Repr

def utf8 (cs : List Char) : List UInt8 := cs.flatMap String.utf8EncodeChar

/-- The text from a byte offset on, if a character starts or the text ends there. -/
def dropBytes? : Nat → List Char → Option (List Char)
  | 0, cs => some cs
  | _ + 1, [] => none
  | n + 1, c :: cs => if c.utf8Size ≤ n + 1 then dropBytes? (n + 1 - c.utf8Size) cs else none

/-- The text before a byte offset, if a character starts or the text ends there. -/
def takeBytes? : Nat → List Char → Option (List Char)
  | 0, _ => some []
  | _ + 1, [] => none
  | n + 1, c :: cs =>
    if c.utf8Size ≤ n + 1 then (takeBytes? (n + 1 - c.utf8Size) cs).map (c :: ·) else none

def slice (cs : List Char) (start stop : Nat) : Except Stop (List Char) :=
  if start ≤ stop then
    match (dropBytes? start cs).bind (takeBytes? (stop - start)) with
    | some part => .ok part
    | none => .error .cut
  else .error .cut

/-- The offset of the first byte at `start` or after it that does not pass. -/
def skip (passes : Char → Bool) (source : List Char) (start : Nat) : Nat :=
  start + (((utf8 source).drop start).takeWhile fun b => passes (Char.ofUInt8 b)).length

/-- The byte offset of the first such character. -/
def find? (c : Char) (cs : List Char) : Option Nat :=
  let before := cs.takeWhile (· != c)
  if before.length < cs.length then some (bytes before) else none

/-- The operators, the longer ones first. -/
def operators : List (String × Token) :=
  [("==", .compare .eq), ("!=", .compare .ne), ("<=", .compare .le), (">=", .compare .ge),
    ("&&", .and), ("||", .or), ("<", .compare .lt), (">", .compare .gt), ("!", .not),
    ("=", .compare .eq)]

section

variable (source : List Char) (start : Nat)

def quoted (quote : Char) : Except Stop (Token × Nat) := do
  let rest ← slice source (start + 1) (bytes source)
  match find? quote rest with
  | none => .error (.refused (.unterminatedText start))
  | some length =>
    let inside ← slice rest 0 length
    return (.text (String.ofList inside), start + length + 2)

def number : Except Stop (Token × Nat) := do
  let stop := skip isNumberRest source (start + 1)
  let text ← slice source start stop
  match numeral? text with
  | some n => return (.number n, stop)
  | none => .error (.refused (.unexpectedToken (String.ofList text) start))

def word : Except Stop (Token × Nat) := do
  let stop := skip isNameRest source start
  let text ← slice source start stop
  return (ofWord text, stop)

def operator : Except Stop (Token × Nat) := do
  let rest ← slice source start (bytes source)
  match operators.find? fun op => op.1.toList.isPrefixOf rest with
  | some (symbol, token) => return (token, start + symbol.utf8ByteSize)
  | none =>
    .error (.refused (.unexpectedToken ((rest.head?.map String.singleton).getD "") start))

/-- Whether the byte after this one is a digit. -/
def beforeDigit : Bool :=
  ((utf8 source)[start + 1]?.map fun b => (Char.ofUInt8 b).isDigit).getD false

/-- The token that starts with a byte, and the offset after it. A byte stands for the character with
its code, which no branch but the last takes unless it is ASCII. -/
def token (b : UInt8) : Except Stop (Token × Nat) :=
  let c := Char.ofUInt8 b
  if c == '(' then .ok (.opening, start + 1)
  else if c == ')' then .ok (.closing, start + 1)
  else if c == '"' || c == '\'' then quoted source start c
  else if c.isDigit || (c == '-' && beforeDigit source start) then number source start
  else if isNameStart c then word source start
  else operator source start

/-- What one pass finds, and the offset where the next one starts. A blank is no token. -/
def pass (b : UInt8) : Except Stop (Option Token × Nat) :=
  if isAsciiBlank (Char.ofUInt8 b) then .ok (none, start + 1)
  else (token source start b).map fun (found, next) => (some found, next)

end

def scanFrom (source : List Char) (start : Nat) : Except Stop (List Placed) :=
  if h : start < (utf8 source).length then
    match pass source start (utf8 source)[start] with
    | .error e => .error e
    | .ok (found, next) =>
      if start < next then
        (scanFrom source next).map fun more => (found.map (·, start)).toList ++ more
      else .error .idle
  else .ok []
  termination_by (utf8 source).length - start

def scan (source : String) : Except Stop (List Placed) := scanFrom source.toList 0

/-- A pass over the source starts at these offsets. -/
inductive Visited (source : List Char) : Nat → Prop
  | start : Visited source 0
  | next {start next : Nat} {b : UInt8} {found : Option Token} (visited : Visited source start)
      (reads : (utf8 source)[start]? = some b) (passes : pass source start b = .ok (found, next)) :
      Visited source next

end StoryPress.Condition.Scanner
