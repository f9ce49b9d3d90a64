import StoryPress.Story.Render

/-! The Markdown of a document as one piece per block, each read off the block and the blocks before
it. A history lists these, the last one first. What is armed at a block are the invocations after
the last text block of its history. There is no table of slots here: handlers take turns, and a turn
starts from the slot that the last turn of the same modifier left. -/
namespace StoryPress.Story.Piece

open StoryPress.Modifier (Armed Handled Passage Registry Run Slot)

/-- The modifiers that accept an invocation, in the order of the registry. -/
def candidates (registry : Registry) (invocation : String) : List Armed :=
  (registry.zipIdx.filter fun entry => entry.1.accepts invocation).map fun entry =>
    ⟨entry.2, entry.1, invocation⟩

/-- What an invocation arms: the only modifier that accepts it. -/
def arming (registry : Registry) (invocation : String) : Option Armed :=
  match candidates registry invocation with
  | [a] => some a
  | _ => none

def armed (registry : Registry) : List Block → List Armed
  | [] => []
  | .text _ :: _ => []
  | .modifier invocation :: earlier =>
    armed registry earlier ++ (arming registry invocation).toList

/-- One run of a handler: what it was given and what it left. -/
structure Turn where
  armed : Armed
  given : Passage
  left : Handled

def Turn.run (turn : Turn) : Run :=
  ⟨turn.armed.index, turn.armed.modifier.name, turn.armed.invocation, turn.given.text⟩

/-- The slot of a modifier as its last turn left it; empty before its first. -/
def slotAfter (turns : List Turn) (index : Nat) : Slot :=
  match turns.reverse.find? fun turn => turn.armed.index == index with
  | some turn => turn.left.slot
  | none => []

def takeTurn (earlier : List Turn) (passage : Passage) (a : Armed) : Turn :=
  ⟨a, passage, a.modifier.handle passage (slotAfter earlier a.index) a.invocation⟩

/-- The turns of armed modifiers on a passage, after earlier turns. -/
def turnsOn : List Turn → Passage → List Armed → List Turn
  | _, _, [] => []
  | earlier, passage, a :: rest =>
    let turn := takeTurn earlier passage a
    turn :: turnsOn (earlier ++ [turn]) turn.left.passage rest

/-- What a passage has become after the turns on it. -/
def outcome (passage : Passage) (turns : List Turn) : Passage :=
  (turns.getLast?.map fun turn => turn.left.passage).getD passage

def opening (substitute : String → String) (content : String) : Passage :=
  ⟨"\n\n", substitute content, ""⟩

def turns (substitute : String → String) (registry : Registry) : List Block → List Turn
  | [] => []
  | .modifier _ :: earlier => turns substitute registry earlier
  | .text content :: earlier =>
    turns substitute registry earlier ++
      turnsOn (turns substitute registry earlier) (opening substitute content)
        (armed registry earlier)

def newTurns (substitute : String → String) (registry : Registry) (earlier : List Block)
    (content : String) : List Turn :=
  turnsOn (turns substitute registry earlier) (opening substitute content) (armed registry earlier)

/-- What a block after a history adds to the Markdown. -/
def ofBlock (substitute : String → String) (registry : Registry) (earlier : List Block) :
    Block → String
  | .text content =>
    let ended := outcome (opening substitute content)
      (newTurns substitute registry earlier content)
    ended.before ++ ended.text ++ ended.after
  | .modifier invocation =>
    match arming registry invocation with
    | some _ => ""
    | none => "\n\n[" ++ invocation ++ "]\n\n"

def ofBlocks (substitute : String → String) (registry : Registry) :
    (earlier : List Block) → List Block → List String
  | _, [] => []
  | earlier, block :: rest =>
    ofBlock substitute registry earlier block ::
      ofBlocks substitute registry (block :: earlier) rest

/-- The warning that an invocation with several candidates causes. -/
def warning? (registry : Registry) : Block → Option String
  | .text _ => none
  | .modifier invocation =>
    match candidates registry invocation with
    | first :: second :: more =>
      some (Walk.ambiguity invocation ((first :: second :: more).map fun a => a.modifier.name))
    | _ => none

end StoryPress.Story.Piece
