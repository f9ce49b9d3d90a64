import StoryPress.Condition.Eval
import StoryPress.Modifier.Basic
import StoryPress.Text.Blank
import StoryPress.Text.Fold

/-! Each built-in modifier is invoked by fixed words, trimmed of blanks and compared up to case
folding, so that the long s counts as an s. `conditional` reads story variables when its handler
runs; it shows or hides the block and leaves the outcome in its slot for a later `else`. -/
namespace StoryPress.Modifier.Builtin

open StoryPress.Json (Value Lookup)
open StoryPress.Story (Fault)
open StoryPress.Text

inductive Name where
  | align | append | continue | note | conditional | css
  deriving DecidableEq, Repr

/-- All built-in modifiers in the order of their registration. -/
def Name.all : List Name := [.align, .append, .continue, .note, .conditional, .css]

def Name.text : Name → String
  | align => "align"
  | append => "append"
  | .continue => "continue"
  | note => "note"
  | conditional => "conditional"
  | css => "css"

def Name.usage : Name → String
  | align => "align center|left|right"
  | append => "append"
  | .continue => "continue | cont'd | cont."
  | note => "note | note to self | note to myself | n.b. | fixme | todo"
  | conditional => "if <expr> | unless <expr> | else"
  | css => "css"

/-- An invocation without the blanks around it. -/
def words (invocation : String) : List Char := trimChars invocation.toList

def fold (cs : List Char) : List Char := cs.map foldSimple

/-- Whether an invocation is one of the given phrases, up to case. -/
def isPhrase (phrases : List String) (invocation : String) : Bool :=
  phrases.any fun phrase => fold (words invocation) == phrase.toList

/-- What follows a keyword and at least one blank, without the blanks. -/
def afterKeyword? (keyword : String) (cs : List Char) : Option (List Char) :=
  let head := cs.take keyword.toList.length
  let rest := cs.drop keyword.toList.length
  if fold head == keyword.toList && (rest.head?.map isBlank).getD false then
    some (rest.dropWhile isBlank)
  else none

def directions : List String := ["center", "left", "right"]

/-- The direction that an invocation of `align` names. -/
def direction? (invocation : String) : Option String :=
  (afterKeyword? "align" (words invocation)).bind fun rest =>
    directions.find? fun direction => fold rest == direction.toList

def alignOpening (direction : String) : String :=
  "<div style=\"text-align: " ++ direction ++ "\">"

def alignClosing : String := "</div>"

def align : Modifier where
  name := Name.align.text
  accepts invocation := (direction? invocation).isSome
  handle p slot invocation :=
    let direction := (direction? invocation).getD "center"
    .ok ⟨p.before ++ alignOpening direction ++ separator, p.text,
      p.after ++ separator ++ alignClosing⟩ slot

def append : Modifier where
  name := Name.append.text
  accepts := isPhrase ["append"]
  handle p slot _ := .ok { p with before := " " } slot

def «continue» : Modifier where
  name := Name.continue.text
  accepts := isPhrase ["continue", "cont'd", "cont."]
  handle p slot _ := .ok { p with before := "" } slot

def note : Modifier where
  name := Name.note.text
  accepts := isPhrase ["note", "note to self", "note to myself", "n.b.", "fixme", "todo"]
  handle _ slot _ := .ok .hidden slot

def css : Modifier where
  name := Name.css.text
  accepts := isPhrase ["css"]
  handle p slot _ := .ok { p with text := "<style>\n" ++ trim p.text ++ "\n</style>" } slot

/-- An invocation of `conditional`: a keyword as written with its expression, or `else`. -/
inductive Branch where
  | test (keyword : List Char) (expr : List Char)
  | otherwise
  deriving DecidableEq, Repr

/-- An expression is not empty and stands on one line. -/
def branch? (invocation : String) : Option Branch :=
  let cs := words invocation
  let test? (keyword : String) : Option Branch :=
    (afterKeyword? keyword cs).bind fun expr =>
      if !expr.isEmpty && expr.all (· != '\n') then
        some (.test (cs.take keyword.toList.length) expr)
      else none
  if fold cs == "else".toList then some .otherwise
  else (test? "if").or (test? "unless")

/-- The slot field with the outcome of the last test. -/
def lastCondition : String := "lastCondition"

/-- Only a keyword written in ASCII letters reverses a test. -/
def isUnless (keyword : List Char) : Bool :=
  keyword.map Char.toLower == "unless".toList

/-- Whether the block is shown, and the slot afterwards. -/
def verdict (lookup : Lookup) (slot : Slot) (invocation : String) : Except Fault (Bool × Slot) :=
  match branch? invocation with
  | none => .error (.message ("not a conditional: [" ++ invocation ++ "]"))
  | some .otherwise =>
    match slot.get? lastCondition with
    | some (.bool last) => .ok (!last, slot)
    | _ => .ok (false, slot)
  | some (.test keyword expr) =>
    match Condition.parse (String.ofList expr) with
    | .error e => .error (.condition e)
    | .ok condition =>
      let result := condition.isTrue lookup != isUnless keyword
      .ok (result, slot.put lastCondition (.bool result))

def conditional (lookup : Lookup) : Modifier where
  name := Name.conditional.text
  accepts invocation := (branch? invocation).isSome
  handle p slot invocation :=
    match verdict lookup slot invocation with
    | .error fault => ⟨p, slot, some fault⟩
    | .ok (shown, slot) => .ok (if shown then p else .hidden) slot

def ofName (lookup : Lookup) : Name → Modifier
  | .align => align
  | .append => append
  | .continue => «continue»
  | .note => note
  | .conditional => conditional lookup
  | .css => css

/-- Whether a list of disabled names holds this one, in any ASCII case. -/
def isDisabled (disabled : List String) (name : Name) : Bool :=
  disabled.any fun d => eqIgnoringAsciiCase d name.text

def enabled (disabled : List String) : List Name := Name.all.filter (!isDisabled disabled ·)

def registry (lookup : Lookup) (disabled : List String) : Registry :=
  (enabled disabled).map (ofName lookup)

def isBuiltin (name : String) : Bool := Name.all.any fun n => eqIgnoringAsciiCase n.text name

def ofText? (name : String) : Option Name := Name.all.find? fun n => n.text == name

theorem name_ofName (lookup : Lookup) (name : Name) : (ofName lookup name).name = name.text := by
  cases name <;> rfl

end StoryPress.Modifier.Builtin
