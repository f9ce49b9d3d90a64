import StoryPress.Markdown.Scan
import StoryPress.Markdown.Tree
import StoryPress.Text.Blank

/-! The content of a paragraph is cut into literal characters, line breaks and the marks that
styles, code, links and raw HTML are made of. A token keeps the text from where it starts, since
links and raw HTML are read from the text itself and then take the place of all tokens that they
cover. -/
namespace StoryPress.Markdown

open Scan

/-- A run of one mark for styled text, and whether it may stand before or after that text. -/
structure StyleRun where
  char : Char
  length : Nat
  canOpen : Bool
  canClose : Bool
  deriving DecidableEq, Repr

inductive Mark where
  | literal (text : List Char)
  | softBreak
  | hardBreak
  | style (run : StyleRun)
  | quote (run : StyleRun)
  /-- Backticks, and whether a backslash stands before them. -/
  | backticks (escaped : Bool)
  | angle
  | openLabel (image : Bool)
  | closeLabel
  deriving DecidableEq, Repr

/-- A mark, with the characters skipped before it and the number of its own. -/
structure Found where
  mark : Mark
  skipped : Nat
  more : Nat

structure Token where
  mark : Mark
  /-- The content from the first character of the token on. -/
  start : List Char
  width : Nat
  /-- How many characters of the content follow the token. -/
  left : Nat

namespace Token

def after (t : Token) : List Char := t.start.drop t.width

end Token

namespace StyleRun

/-- Whether a run may stand before styled text: no blank follows, and it does not stand inside a
word. Asterisks and double tildes may start inside a word. -/
def opens (char : Char) (length : Nat) (prev next : Option Char) : Bool :=
  match next, prev with
  | none, _ => false
  | some next, none => !Text.isBlank next
  | some next, some prev =>
    !Text.isBlank next &&
      ((char == '*' && !Text.isPunctuation next) || (char == '~' && 1 < length) ||
        (char == '~' && prev == '~' && !Text.isPunctuation next) || Text.isBlank prev ||
        (Text.isPunctuation prev && !(char == '\'' && (prev == ']' || prev == ')'))))

def closes (char : Char) (length : Nat) (prev next : Option Char) : Bool :=
  match prev, next with
  | none, _ => false
  | some prev, none => !Text.isBlank prev
  | some prev, some next =>
    !Text.isBlank prev &&
      (((char == '*' || (char == '~' && 1 < length)) && !Text.isPunctuation prev) ||
        (char == '~' && prev == '~') || Text.isBlank next || Text.isPunctuation next)

/-- The run of so many marks at the head of a text. -/
def read (length : Nat) (prev : Option Char) (char : Char) (rest : List Char) : StyleRun :=
  let next := rest[length - 1]?
  ⟨char, length, opens char length prev next, closes char length prev next⟩

def text (r : StyleRun) : List Char := List.replicate r.length r.char

end StyleRun

/-- What hyphens stand for: em and en dashes that add up to their number. -/
def dashes (hyphens : Nat) : List Char :=
  let (ems, ens) := match hyphens % 6 with
    | 0 | 3 => (hyphens / 3, 0)
    | 2 | 4 => (0, hyphens / 2)
    | 1 => (hyphens / 3 - 1, 2)
    | _ => (hyphens / 3, 1)
  List.replicate ems '—' ++ List.replicate ens '–'

namespace Token

def lineIndent (cs : List Char) : Nat := (cs.takeWhile fun c => c == ' ' || c == '\t').length

/-- A break at the end of a line takes the indentation of the next line with it. -/
def lineBreak (mark : Mark) (width : Nat) (rest : List Char) : Found :=
  ⟨mark, 0, width - 1 + lineIndent rest⟩

def escaped : List Char → Found
  | '\n' :: rest => lineBreak .hardBreak 2 rest
  | '`' :: rest => ⟨.backticks true, 1, countHead '`' rest⟩
  | c :: _ =>
    if Text.isAsciiPunctuation c then ⟨.literal [c], 1, 0⟩ else ⟨.literal ['\\'], 0, 0⟩
  | [] => ⟨.literal ['\\'], 0, 0⟩

/-- Blanks, which belong to the break if the line ends after them. None are kept at the end of the
content. -/
def blanks (c : Char) (rest : List Char) : Option Found :=
  let more := rest.takeWhile isInlineBlank
  match rest.drop more.length with
  | [] => none
  | '\n' :: next =>
    some (lineBreak (if more.isEmpty then .softBreak else .hardBreak) (more.length + 2) next)
  | _ => some ⟨.literal [c], 0, 0⟩

def styleRun (prev : Option Char) (c : Char) (rest : List Char) : Found :=
  let more := countHead c rest
  let run := StyleRun.read (more + 1) prev c rest
  if (run.canOpen || run.canClose) && (c != '~' || run.length ≤ 2) then ⟨.style run, 0, more⟩
  else ⟨.literal run.text, 0, more⟩

def smart (prev : Option Char) (c : Char) (rest : List Char) : Option Found :=
  if c == '\'' || c == '"' then some ⟨.quote (.read 1 prev c rest), 0, 0⟩
  else if c == '.' && startsWith ['.', '.'] rest then some ⟨.literal ['…'], 0, 2⟩
  else if c == '-' && startsWith ['-'] rest then
    let more := countHead '-' rest
    some ⟨.literal (dashes (more + 1)), 0, more⟩
  else none

/-- The token at the head of a content, after a previous character of the same line; none if only
blanks are left. -/
def next? (options : Options) (prev : Option Char) (c : Char) (rest : List Char) : Option Found :=
  if c == '\n' then some (lineBreak .softBreak 1 rest)
  else if isInlineBlank c then blanks c rest
  else if c == '\\' then some (escaped rest)
  else if c == '*' || c == '_' || (c == '~' && options.gfm) then some (styleRun prev c rest)
  else if c == '`' then some ⟨.backticks false, 0, countHead '`' rest⟩
  else if c == '<' && !startsWith ['\\'] rest then some ⟨.angle, 0, 0⟩
  else if c == '!' && startsWith ['['] rest then some ⟨.openLabel true, 0, 1⟩
  else if c == '[' then some ⟨.openLabel false, 0, 0⟩
  else if c == ']' then some ⟨.closeLabel, 0, 0⟩
  else if c == '&' then
    match Entity.afterAmpersand? rest with
    | some (cs, after) => some ⟨.literal cs, 0, rest.length - after.length⟩
    | none => some ⟨.literal ['&'], 0, 0⟩
  else
    match if options.smartPunctuation then smart prev c rest else none with
    | some found => some found
    | none => some ⟨.literal [c], 0, 0⟩

def Found.isBreak (f : Found) : Bool := f.mark == .softBreak || f.mark == .hardBreak

def ofChars (options : Options) (prev : Option Char) (length : Nat) : List Char → List Token
  | [] => []
  | c :: rest =>
    match next? options prev c rest with
    | none => []
    | some found =>
      let further := found.skipped + found.more
      let left := length - further - 1
      let last := if Found.isBreak found then none else (c :: rest)[further]?
      ⟨found.mark, (c :: rest).drop found.skipped, found.more + 1, left⟩ ::
        ofChars options last left (rest.drop further)
  termination_by cs => cs.length
  decreasing_by
    simp only [List.length_cons, List.length_drop]
    omega

end Token

end StoryPress.Markdown
