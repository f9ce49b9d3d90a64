import StoryPress.Modifier.Basic
import StoryPress.Modifier.Pattern

namespace StoryPress.Modifier

open StoryPress.Json (Value)
open StoryPress.Number (Double)

inductive Action where
  | suffix (text : String)
  | before (text : String)
  | after (text : String)
  | clear
  | wrap (text : String)
  | count
  | remember
  | fail (message : String)
  | nothing
  deriving DecidableEq, Repr

namespace Action

/-- The number in a slot field; anything but a natural number that fits 64 bits counts as zero. -/
def counter (slot : Slot) (field : String) : Int :=
  match slot.get? field with
  | some (.number (.int n)) => if 0 ≤ n then n else 0
  | _ => 0

def handle : Action → Passage → Slot → String → Handled
  | suffix text, p, slot, _ => .ok { p with text := p.text ++ text } slot
  | before text, p, slot, _ => .ok { p with before := text } slot
  | after text, p, slot, _ => .ok { p with after := p.after ++ text } slot
  | clear, p, slot, _ => .ok { p with text := "" } slot
  | wrap text, p, slot, _ => .ok { p with text := text ++ p.text ++ text } slot
  | count, p, slot, invocation =>
    let n := counter slot "n" + 1
    .ok { p with text := p.text ++ " " ++ invocation ++ "#" ++ toString n }
      (slot.put "n" (.number (.int n)))
  | remember, p, slot, _ =>
    let last := match slot.get? "last" with
      | some (.text s) => s
      | _ => ""
    .ok { p with before := p.before ++ last } (slot.put "last" (.text p.text))
  | fail message, p, slot, _ => ⟨p, slot, some (.message message)⟩
  | nothing, p, slot, _ => .ok p slot

end Action

def custom (name : String) (pattern : Pattern) (action : Action) : Modifier where
  name := name
  accepts := pattern.matchesText
  handle := action.handle

end StoryPress.Modifier
