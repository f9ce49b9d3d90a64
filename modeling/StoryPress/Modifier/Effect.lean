import StoryPress.Modifier.Builtin
import StoryPress.Modifier.Window

/-! What a built-in modifier does to a passage can be told before it sees the passage. So the calls
armed on a text block have a list of effects, in which only a test or an `else` depends on what the
slots hold: a verdict that is false hides the block, as a note always does. -/
namespace StoryPress.Modifier.Builtin

open StoryPress.Json (Lookup)

inductive Effect where
  | wrap (direction : String) (known : direction ∈ directions)
  | space
  | attach
  | hide
  | style
  | keep
  deriving DecidableEq, Repr

namespace Effect

def on : Effect → Passage → Passage
  | wrap direction _, p =>
    ⟨p.before ++ alignOpening direction ++ separator, p.text, p.after ++ separator ++ alignClosing⟩
  | space, p => { p with before := " " }
  | attach, p => { p with before := "" }
  | hide, _ => .hidden
  | style, p => { p with text := "<style>\n" ++ Text.trim p.text ++ "\n</style>" }
  | keep, p => p

def onAll (effects : List Effect) (p : Passage) : Passage := effects.foldl (fun p e => e.on p) p

def isWrap : Effect → Bool
  | wrap _ _ => true
  | _ => false

/-- Whether an effect drops all that stood before the text. -/
def isJoin : Effect → Bool
  | space | attach => true
  | _ => false

/-- Whether an effect leaves something that no later join can drop. -/
def isLasting : Effect → Bool
  | wrap _ _ | style => true
  | _ => false

/-- The effects after the last one that hides, which cleared whatever came earlier. -/
def sinceHide (effects : List Effect) : List Effect :=
  (effects.reverse.takeWhile (· != hide)).reverse

@[simp] theorem onAll_nil (p : Passage) : onAll [] p = p := rfl

@[simp] theorem onAll_cons (e : Effect) (rest : List Effect) (p : Passage) :
    onAll (e :: rest) p = onAll rest (e.on p) := rfl

theorem onAll_concat (xs : List Effect) (e : Effect) (p : Passage) :
    onAll (xs ++ [e]) p = e.on (onAll xs p) := List.foldl_append

@[simp] theorem sinceHide_nil : sinceHide [] = [] := rfl

@[simp] theorem sinceHide_concat (xs : List Effect) (e : Effect) :
    sinceHide (xs ++ [e]) = if e = hide then [] else sinceHide xs ++ [e] := by
  by_cases h : e = hide <;> simp [sinceHide, h]

end Effect

/-- Without a direction that is known, a passage is centred. -/
theorem direction_known (invocation : String) :
    (direction? invocation).getD "center" ∈ directions := by
  cases h : direction? invocation with
  | none => decide
  | some direction =>
    obtain ⟨rest, -, hfind⟩ := Option.bind_eq_some_iff.mp h
    exact List.mem_of_find?_eq_some hfind

/-- An invocation of a built-in modifier that stands at some place of a registry. -/
structure Call where
  index : Nat
  name : Name
  invocation : String
  deriving DecidableEq, Repr

namespace Call

def arm (lookup : Lookup) (call : Call) : Armed :=
  ⟨call.index, ofName lookup call.name, call.invocation⟩

@[simp] theorem index_arm (lookup : Lookup) (call : Call) :
    (call.arm lookup).index = call.index := rfl

@[simp] theorem invocation_arm (lookup : Lookup) (call : Call) :
    (call.arm lookup).invocation = call.invocation := rfl

def effect (lookup : Lookup) (slot : Slot) (call : Call) : Effect :=
  match call.name with
  | .align => .wrap ((direction? call.invocation).getD "center") (direction_known _)
  | .append => .space
  | .continue => .attach
  | .note => .hide
  | .conditional =>
    match verdict lookup slot call.invocation with
    | .ok (false, _) => .hide
    | _ => .keep
  | .css => .style

/-- What a call leaves in its slot: only tests write. -/
def kept (lookup : Lookup) (slot : Slot) (call : Call) : Slot :=
  match call.name with
  | .conditional =>
    match verdict lookup slot call.invocation with
    | .ok (_, kept) => kept
    | .error _ => slot
  | _ => slot

end Call

/-- The effects of calls in order, each on the slot that the calls before it left. -/
def effects (lookup : Lookup) : (Nat → Slot) → List Call → List Effect
  | _, [] => []
  | memory, call :: rest =>
    let slot := memory call.index
    let later := fun index => if index = call.index then call.kept lookup slot else memory index
    call.effect lookup slot :: effects lookup later rest

end StoryPress.Modifier.Builtin
