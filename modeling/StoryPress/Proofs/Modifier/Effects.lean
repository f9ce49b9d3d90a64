import StoryPress.Modifier.Effect
import Mathlib.Data.List.Induction

namespace StoryPress.Modifier.Builtin

open StoryPress.Json (Lookup)

namespace Call

/-- One handler has the effect that its call and its slot tell. -/
theorem handle_eq {lookup : Lookup} {call : Call} {p : Passage} {slot : Slot}
    (ok : ((call.arm lookup).modifier.handle p slot call.invocation).fault = none) :
    (call.arm lookup).modifier.handle p slot call.invocation =
      .ok ((call.effect lookup slot).on p) (call.kept lookup slot) := by
  obtain ⟨index, name, invocation⟩ := call
  cases name with
  | align => rfl
  | append => rfl
  | «continue» => rfl
  | note => rfl
  | css => rfl
  | conditional =>
    simp only [arm, ofName, conditional, effect, kept] at ok ⊢
    cases hverdict : verdict lookup slot invocation with
    | error fault => simp [hverdict] at ok
    | ok outcome =>
      obtain ⟨shown, later⟩ := outcome
      cases shown <;> rfl

end Call

/-- A run without failure changes the passage by the effects of its calls. -/
theorem passage_applyAll {lookup : Lookup} {calls : List Call} {p : Passage} {slots : Slots}
    (ok : (applyAll (calls.map (Call.arm lookup)) p slots).error = none) :
    (applyAll (calls.map (Call.arm lookup)) p slots).passage =
      Effect.onAll (effects lookup slots.get calls) p := by
  induction calls generalizing p slots with
  | nil => rfl
  | cons call rest ih =>
    simp only [List.map_cons, applyAll, Call.index_arm, Call.invocation_arm] at ok ⊢
    cases hfault : ((call.arm lookup).modifier.handle p (slots.get call.index)
        call.invocation).fault with
    | some fault => simp [hfault] at ok
    | none =>
      have hmemory : (slots.put call.index (call.kept lookup (slots.get call.index))).get =
          fun index => if index = call.index then call.kept lookup (slots.get call.index)
            else slots.get index := by
        funext index
        exact Slots.get_put slots call.index index _
      simp only [Call.handle_eq hfault, Handled.ok] at ok ⊢
      rw [ih ok, hmemory, effects, Effect.onAll_cons]

namespace Effect

theorem onAll_of_hide_mem {done : List Effect} (h : hide ∈ done) (p : Passage) :
    onAll done p = onAll (sinceHide done) .hidden := by
  induction done using List.reverseRecOn with
  | nil => cases h
  | append_singleton done e ih =>
    rw [onAll_concat, sinceHide_concat]
    by_cases he : e = hide
    · rw [if_pos he, he]
      rfl
    · have hearlier : hide ∈ done := by simpa [Ne.symm he] using h
      rw [if_neg he, onAll_concat, ih hearlier]

theorem hide_not_mem_sinceHide (done : List Effect) : hide ∉ sinceHide done := by
  induction done using List.reverseRecOn with
  | nil => simp
  | append_singleton done e ih =>
    rw [sinceHide_concat]
    split
    · exact List.not_mem_nil
    · next he => simp [ih, Ne.symm he]

/-- A hidden passage stays without a trace if nothing lasting is done to it and the last join, if
there is one, puts nothing before it. -/
def LeavesNothing (later : List Effect) : Prop :=
  (∀ e ∈ later, e.isLasting = false) ∧ (later.filter isJoin).getLast? ≠ some space

instance (later : List Effect) : Decidable (LeavesNothing later) :=
  inferInstanceAs (Decidable (_ ∧ _))

theorem after_onAll_hidden {later : List Effect} (h : hide ∉ later) :
    (onAll later .hidden).text = "" ∧ (onAll later .hidden).after = "" ↔
      ∀ e ∈ later, e.isLasting = false := by
  induction later using List.reverseRecOn with
  | nil => simp [Passage.hidden]
  | append_singleton later e ih =>
    have hlater : hide ∉ later := fun hmem => h (List.mem_append_left _ hmem)
    rw [onAll_concat]
    simp only [List.mem_append, List.mem_singleton, or_imp, forall_and, forall_eq, ← ih hlater]
    cases e with
    | hide => simp at h
    | wrap direction known => simp [on, isLasting, alignClosing]
    | style => simp [on, isLasting]
    | space | attach | keep => simp [on, isLasting]

theorem before_onAll_hidden {later : List Effect} (h : hide ∉ later)
    (hlasting : ∀ e ∈ later, e.isLasting = false) :
    (onAll later .hidden).before = "" ↔ (later.filter isJoin).getLast? ≠ some space := by
  induction later using List.reverseRecOn with
  | nil => simp [Passage.hidden]
  | append_singleton later e ih =>
    have hlater : hide ∉ later := fun hmem => h (List.mem_append_left _ hmem)
    have hearlier := ih hlater fun e he => hlasting e (List.mem_append_left _ he)
    have hlast : e.isLasting = false := hlasting e (List.mem_append_right _ List.mem_cons_self)
    rw [onAll_concat, List.filter_append]
    cases e with
    | hide => simp at h
    | wrap direction known => cases hlast
    | style => cases hlast
    | space => simp [on, isJoin]
    | attach => simp [on, isJoin]
    | keep => simpa [on, isJoin] using hearlier

theorem write_onAll_hidden {later : List Effect} (h : hide ∉ later) :
    (onAll later .hidden).write = "" ↔ LeavesNothing later := by
  have hafter := after_onAll_hidden h
  have hwrite : (onAll later .hidden).write = "" ↔ (onAll later .hidden).before = "" ∧
      (onAll later .hidden).text = "" ∧ (onAll later .hidden).after = "" := by
    simp [Passage.write, and_assoc]
  rw [hwrite, hafter, LeavesNothing, and_comm]
  exact and_congr_right fun hlasting => before_onAll_hidden h hlasting

end Effect

end StoryPress.Modifier.Builtin
