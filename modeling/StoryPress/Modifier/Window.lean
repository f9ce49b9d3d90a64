import StoryPress.Modifier.Basic

/-! Modifiers are armed by their invocations and all run, in that order, on the next text block.
Each modifier has one slot per render, made when it is first armed. After a run the window is empty,
also when a handler failed and the modifiers after it were left out. -/
namespace StoryPress.Modifier

open StoryPress.Story (RenderError)

structure Armed where
  index : Nat
  modifier : Modifier
  invocation : String

/-- The slots of a render, by the place of the modifier. -/
abbrev Slots := List (Nat × Slot)

namespace Slots

def get? (slots : Slots) (index : Nat) : Option Slot := slots.lookup index

/-- The slot of a modifier; empty before its first use. -/
def get (slots : Slots) (index : Nat) : Slot := (slots.get? index).getD []

def put (index : Nat) (slot : Slot) : Slots → Slots
  | [] => [(index, slot)]
  | (i, s) :: rest => if index = i then (index, slot) :: rest else (i, s) :: put index slot rest

/-- Makes an empty slot where there is none. -/
def create (index : Nat) (slots : Slots) : Slots :=
  match slots.get? index with
  | some _ => slots
  | none => put index [] slots

theorem get?_put (slots : Slots) (index other : Nat) (slot : Slot) :
    (put index slot slots).get? other = if other = index then some slot else slots.get? other := by
  induction slots with
  | nil =>
    by_cases h : other = index
    · simp [put, get?, h]
    · simp [put, get?, List.lookup_cons, beq_false_of_ne h, h]
  | cons entry rest ih =>
    obtain ⟨i, s⟩ := entry
    simp only [get?] at ih ⊢
    by_cases hi : index = i
    · subst hi
      by_cases h : other = index
      · simp [put, h]
      · simp [put, List.lookup_cons, beq_false_of_ne h, h]
    · by_cases ho : other = i
      · subst ho
        simp [put, hi, Ne.symm hi]
      · simp [put, hi, List.lookup_cons, beq_false_of_ne ho, ih]

theorem get_put (slots : Slots) (index other : Nat) (slot : Slot) :
    (put index slot slots).get other = if other = index then slot else slots.get other := by
  unfold get
  rw [get?_put]
  split <;> rfl

/-- No handler can tell an empty slot from a missing one. -/
theorem get_create (slots : Slots) (index other : Nat) :
    (create index slots).get other = slots.get other := by
  unfold create
  cases h : slots.get? index with
  | some slot => rfl
  | none =>
    show (put index [] slots).get other = slots.get other
    rw [get_put]
    split
    · next he => simp [he, get, h]
    · rfl

end Slots

structure Window where
  armed : List Armed
  slots : Slots

/-- A handler that was run, with the text it was given. -/
structure Run where
  index : Nat
  name : String
  invocation : String
  text : String
  deriving DecidableEq, Repr

/-- How a list of armed modifiers ended on a text block. -/
structure Applied where
  passage : Passage
  slots : Slots
  runs : List Run
  error : Option RenderError

/-- Runs armed modifiers in order up to the first failure. -/
def applyAll : List Armed → Passage → Slots → Applied
  | [], passage, slots => ⟨passage, slots, [], none⟩
  | a :: rest, passage, slots =>
    let handled := a.modifier.handle passage (slots.get a.index) a.invocation
    let run : Run := ⟨a.index, a.modifier.name, a.invocation, passage.text⟩
    let slots := slots.put a.index handled.slot
    match handled.fault with
    | some fault => ⟨handled.passage, slots, [run], some (.modifier a.modifier.name fault)⟩
    | none =>
      let later := applyAll rest handled.passage slots
      { later with runs := run :: later.runs }

namespace Window

def empty : Window := ⟨[], []⟩

def activate (window : Window) (a : Armed) : Window :=
  ⟨window.armed ++ [a], window.slots.create a.index⟩

/-- The window after a text block, and what the block became. -/
def apply (window : Window) (passage : Passage) : Window × Applied :=
  let applied := applyAll window.armed passage window.slots
  (⟨[], applied.slots⟩, applied)

def discard (window : Window) : Window := ⟨[], window.slots⟩

@[simp] theorem armed_apply (window : Window) (passage : Passage) :
    (window.apply passage).1.armed = [] := rfl

end Window

end StoryPress.Modifier
