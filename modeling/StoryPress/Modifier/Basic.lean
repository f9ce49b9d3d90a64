import StoryPress.Json.Value
import StoryPress.Story.Fault

namespace StoryPress.Modifier

open StoryPress.Story (Fault)

/-- Put before a text block unless a modifier says otherwise. -/
def separator : String := "\n\n"

structure Passage where
  before : String
  text : String
  after : String
  deriving DecidableEq, Repr

namespace Passage

def ofText (text : String) : Passage := ⟨separator, text, ""⟩

/-- A block that leaves nothing, not even its separator. -/
def hidden : Passage := ⟨"", "", ""⟩

def write (p : Passage) : String := p.before ++ p.text ++ p.after

end Passage

/-- What an invocation leaves in the document when it does not take effect. -/
def fallback (invocation : String) : String := separator ++ "[" ++ invocation ++ "]" ++ separator

/-- The memory of one modifier during one render. -/
abbrev Slot := Json.Fields

/-- What a handler leaves, also when it fails. -/
structure Handled where
  passage : Passage
  slot : Slot
  fault : Option Fault

def Handled.ok (passage : Passage) (slot : Slot) : Handled := ⟨passage, slot, none⟩

end Modifier

structure Modifier where
  name : String
  accepts : String → Bool
  handle : Modifier.Passage → Modifier.Slot → String → Modifier.Handled

namespace Modifier

inductive Resolution where
  | unmatched
  | unique (index : Nat)
  | ambiguous (indices : List Nat)
  deriving DecidableEq, Repr

abbrev Registry := List Modifier

namespace Registry

/-- The places of the modifiers that accept an invocation, in order. -/
def accepting (registry : Registry) (invocation : String) : List Nat :=
  (registry.zipIdx.filter fun entry => entry.1.accepts invocation).map (·.2)

def resolve (registry : Registry) (invocation : String) : Resolution :=
  match registry.accepting invocation with
  | [] => .unmatched
  | [index] => .unique index
  | indices => .ambiguous indices

/-- A name between quotes, with quotes, backslashes and control characters escaped. -/
def quoteName (name : String) : String :=
  let escaped (c : Char) : List Char :=
    if c == '"' || c == '\\' then ['\\', c]
    else if c == '\t' then ['\\', 't']
    else if c == '\n' then ['\\', 'n']
    else if c == '\r' then ['\\', 'r']
    else if c == '\x00' then ['\\', '0']
    else if c.toNat < 32 || c.toNat == 127 then
      ['\\', 'u', '{'] ++ Nat.toDigits 16 c.toNat ++ ['}']
    else [c]
  "\"" ++ String.ofList (name.toList.flatMap escaped) ++ "\""

def listing (registry : Registry) : String :=
  "[" ++ ", ".intercalate (registry.map fun m => quoteName m.name) ++ "]"

def names (registry : Registry) (indices : List Nat) : List String :=
  indices.filterMap fun index => registry[index]?.map Modifier.name

end Registry

end StoryPress.Modifier
