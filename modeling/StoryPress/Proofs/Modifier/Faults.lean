import StoryPress.Modifier.Effect

/-! On an invocation that it accepts, a built-in modifier fails for one reason only: the invocation
is a test whose expression does not parse. Neither the passage nor the slot has a part in it, so a
window of accepted calls fails with the error of its first malformed test, and otherwise not at all.
-/
namespace StoryPress.Modifier.Builtin

open StoryPress.Json (Lookup)
open StoryPress.Story (Fault RenderError)

/-- Why the expression of a test does not parse. -/
def malformed? (invocation : String) : Option Condition.Error :=
  match branch? invocation with
  | some (.test _ expr) =>
    match Condition.parse (String.ofList expr) with
    | .error e => some e
    | .ok _ => none
  | _ => none

/-- An accepted invocation comes to a verdict, unless it is malformed. -/
theorem verdict_accepted (lookup : Lookup) {invocation : String} {b : Branch}
    (hb : branch? invocation = some b) (slot : Slot) :
    (∃ e, malformed? invocation = some e ∧
      verdict lookup slot invocation = .error (.condition e)) ∨
    (malformed? invocation = none ∧ ∃ outcome, verdict lookup slot invocation = .ok outcome) := by
  cases b with
  | otherwise =>
    refine .inr ⟨by simp only [malformed?, hb], ?_⟩
    simp only [verdict, hb]
    split
    · exact ⟨_, rfl⟩
    · exact ⟨_, rfl⟩
  | test keyword expr =>
    simp only [malformed?, verdict, hb]
    cases Condition.parse (String.ofList expr) with
    | error e => exact .inl ⟨e, rfl, rfl⟩
    | ok condition => exact .inr ⟨rfl, _, rfl⟩

/-- The fault of a modifier on an invocation that it accepts. -/
def Name.fault? (name : Name) (invocation : String) : Option Fault :=
  if name = .conditional then (malformed? invocation).map .condition else none

theorem fault_handle {lookup : Lookup} {name : Name} {invocation : String}
    (haccepts : (ofName lookup name).accepts invocation = true) (p : Passage) (slot : Slot) :
    ((ofName lookup name).handle p slot invocation).fault = name.fault? invocation := by
  cases name with
  | conditional =>
    obtain ⟨b, hb⟩ := Option.isSome_iff_exists.mp haccepts
    rcases verdict_accepted lookup hb slot with ⟨e, hbad, hverdict⟩ | ⟨hnone, outcome, hverdict⟩
    · simp [ofName, conditional, Name.fault?, hbad, hverdict]
    · simp [ofName, conditional, Name.fault?, hnone, hverdict, Handled.ok]
  | _ => rfl

namespace Call

def Accepted (lookup : Lookup) (call : Call) : Prop :=
  (ofName lookup call.name).accepts call.invocation = true

def error? (call : Call) : Option RenderError :=
  (call.name.fault? call.invocation).map (.modifier call.name.text)

end Call

/-- A window ends with the first error of its calls. -/
theorem error_applyAll {lookup : Lookup} {calls : List Call}
    (haccepted : ∀ call ∈ calls, call.Accepted lookup) (p : Passage) (slots : Slots) :
    (applyAll (calls.map (Call.arm lookup)) p slots).error = calls.findSome? Call.error? := by
  induction calls generalizing p slots with
  | nil => rfl
  | cons call rest ih =>
    have hfault := fault_handle (haccepted call List.mem_cons_self) p (slots.get call.index)
    have hrest := ih fun later hlater => haccepted later (List.mem_cons_of_mem call hlater)
    simp only [List.map_cons, applyAll, Call.arm, hfault, List.findSome?_cons, Call.error?]
    cases hf : call.name.fault? call.invocation with
    | some fault => simp [name_ofName]
    | none => exact hrest _ _

end StoryPress.Modifier.Builtin
