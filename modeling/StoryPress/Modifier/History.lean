import StoryPress.Modifier.Window

/-! A window is armed, applied and emptied in any order. A history lists these uses, the last one
first, and what the window holds can be told from it. There is no table of slots here: a slot is
what the runs of one modifier, in their order, have made of the empty slot. -/
namespace StoryPress.Modifier

inductive Use where
  | activate (a : Armed)
  | apply (passage : Passage)
  | discard

namespace Window

/-- The window after one use, and the runs of handlers in it. -/
def use (window : Window) : Use → Window × List Run
  | .activate a => (window.activate a, [])
  | .apply passage => ((window.apply passage).1, (window.apply passage).2.runs)
  | .discard => (window.discard, [])

/-- The window after some uses in order, and the runs of handlers in them. -/
def useAll (window : Window) : List Use → Window × List Run
  | [] => (window, [])
  | u :: rest =>
    let first := window.use u
    let later := useAll first.1 rest
    (later.1, first.2 ++ later.2)

theorem useAll_concat (window : Window) (uses : List Use) (u : Use) :
    window.useAll (uses ++ [u]) =
      (((window.useAll uses).1.use u).1,
        (window.useAll uses).2 ++ ((window.useAll uses).1.use u).2) := by
  induction uses generalizing window with
  | nil => simp [useAll]
  | cons first rest ih => simp [useAll, ih]

end Window

/-- One run of a handler: what was armed, and the passage it was given. -/
structure Pass where
  armed : Armed
  given : Passage

namespace Pass

def on (pass : Pass) (slot : Slot) : Handled :=
  pass.armed.modifier.handle pass.given slot pass.armed.invocation

def run (pass : Pass) : Run :=
  ⟨pass.armed.index, pass.armed.modifier.name, pass.armed.invocation, pass.given.text⟩

/-- The passes of one modifier in their order, each on the slot that the one before left, and the
first on the empty slot. -/
def threaded (index : Nat) (passes : List Pass) : Slot :=
  (passes.filter fun pass => pass.armed.index == index).foldl
    (fun slot pass => (pass.on slot).slot) []

end Pass

namespace History

/-- The activations since the last time the window was applied or emptied. -/
def armed : List Use → List Armed
  | .activate a :: earlier => armed earlier ++ [a]
  | _ => []

/-- The places of all modifiers that were ever activated. -/
def activated : List Use → List Nat
  | [] => []
  | .activate a :: earlier => a.index :: activated earlier
  | _ :: earlier => activated earlier

/-- The passes of a list of armed modifiers after earlier ones, up to the first that fails. -/
def passesOn : List Pass → Passage → List Armed → List Pass
  | _, _, [] => []
  | earlier, passage, a :: rest =>
    let pass : Pass := ⟨a, passage⟩
    let left := pass.on (Pass.threaded a.index earlier)
    pass :: if left.fault.isSome then [] else passesOn (earlier ++ [pass]) left.passage rest

def passes : List Use → List Pass
  | [] => []
  | .apply passage :: earlier =>
    passes earlier ++ passesOn (passes earlier) passage (armed earlier)
  | _ :: earlier => passes earlier

end History

end StoryPress.Modifier
