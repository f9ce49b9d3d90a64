import StoryPress.Modifier.Builtin
import StoryPress.Modifier.History
import Mathlib.Data.List.Dedup
import Mathlib.Data.List.Induction

/-! After any uses of a fresh window, its armed list and its table of slots are those that the
history tells: nothing is left armed by a run that failed, a slot is made when its modifier is first
activated and never taken away, and a handler sees no slot but its own. -/
namespace StoryPress.Modifier

namespace Slots

theorem keys_put (slots : Slots) (index : Nat) (slot : Slot) :
    (put index slot slots).map Prod.fst =
      if index ∈ slots.map Prod.fst then slots.map Prod.fst
      else slots.map Prod.fst ++ [index] := by
  induction slots with
  | nil => rfl
  | cons entry rest ih =>
    obtain ⟨i, s⟩ := entry
    by_cases h : index = i
    · simp [put, h]
    · by_cases hmem : index ∈ rest.map Prod.fst
      · rw [if_pos hmem] at ih
        simp [put, h, hmem, ih]
      · rw [if_neg hmem] at ih
        simp [put, h, hmem, ih]

theorem nodup_put {slots : Slots} (h : (slots.map Prod.fst).Nodup) (index : Nat) (slot : Slot) :
    ((put index slot slots).map Prod.fst).Nodup := by
  rw [keys_put]
  split
  · exact h
  · next hnew =>
    rw [← List.concat_eq_append]
    exact h.concat hnew

theorem mem_keys_iff (slots : Slots) (index : Nat) :
    index ∈ slots.map Prod.fst ↔ (slots.get? index).isSome = true := by
  induction slots with
  | nil => simp [get?]
  | cons entry rest ih =>
    obtain ⟨i, s⟩ := entry
    by_cases h : index = i
    · simp [get?, h]
    · simp only [get?] at ih
      simp only [get?, List.map_cons, List.mem_cons, h, false_or, ih, List.lookup_cons,
        beq_false_of_ne h]

end Slots

theorem Pass.threaded_concat (passes : List Pass) (pass : Pass) (index : Nat) :
    threaded index (passes ++ [pass]) =
      if index = pass.armed.index then (pass.on (threaded index passes)).slot
      else threaded index passes := by
  by_cases h : index = pass.armed.index
  · simp [threaded, List.filter_append, h]
  · have hne : (pass.armed.index == index) = false := beq_false_of_ne (Ne.symm h)
    simp [threaded, List.filter_append, h, hne]

theorem Pass.threaded_of_not_mem {passes : List Pass} {index : Nat}
    (h : ∀ pass ∈ passes, pass.armed.index ≠ index) : threaded index passes = [] := by
  have hnone : passes.filter (fun pass => pass.armed.index == index) = [] := by
    simpa [List.filter_eq_nil_iff] using h
  rw [threaded, hnone, List.foldl_nil]

/-- A table has slots for some modifiers, which all passes belong to, and these hold what the passes
have made of them. -/
structure Holds (active : List Nat) (passes : List Pass) (slots : Slots) : Prop where
  known : ∀ pass ∈ passes, pass.armed.index ∈ active
  get? : ∀ index, slots.get? index =
    if index ∈ active then some (Pass.threaded index passes) else none
  nodup : (slots.map Prod.fst).Nodup

namespace Holds

variable {active : List Nat} {passes : List Pass} {slots : Slots}

theorem get (h : Holds active passes slots) {index : Nat} (hmem : index ∈ active) :
    slots.get index = Pass.threaded index passes := by
  rw [Slots.get, h.get?, if_pos hmem, Option.getD_some]

/-- One pass changes the slot of its own modifier. -/
theorem put (h : Holds active passes slots) (pass : Pass) (hmem : pass.armed.index ∈ active) :
    Holds active (passes ++ [pass])
      (slots.put pass.armed.index
        (pass.on (Pass.threaded pass.armed.index passes)).slot) where
  known other hother := by
    rcases List.mem_append.mp hother with hother | hother
    · exact h.known other hother
    · rwa [List.mem_singleton.mp hother]
  get? index := by
    rw [Slots.get?_put, Pass.threaded_concat, h.get?]
    by_cases hi : index = pass.armed.index
    · subst hi
      simp [hmem]
    · simp [hi]
  nodup := Slots.nodup_put h.nodup _ _

/-- A first activation makes an empty slot, and a later one leaves the slot alone. -/
theorem create (h : Holds active passes slots) (index : Nat) :
    Holds (index :: active) passes (Slots.create index slots) := by
  have hknown : ∀ pass ∈ passes, pass.armed.index ∈ index :: active := fun pass hpass =>
    List.mem_cons_of_mem index (h.known pass hpass)
  have hslot := h.get? index
  unfold Slots.create
  by_cases hmem : index ∈ active
  · rw [if_pos hmem] at hslot
    rw [hslot]
    refine ⟨hknown, fun other => ?_, h.nodup⟩
    rw [h.get?]
    by_cases ho : other = index
    · subst ho
      simp [hmem]
    · simp [ho]
  · have hempty : Pass.threaded index passes = [] :=
      Pass.threaded_of_not_mem fun pass hpass hindex => hmem (hindex ▸ h.known pass hpass)
    rw [if_neg hmem] at hslot
    rw [hslot]
    refine ⟨hknown, fun other => ?_, Slots.nodup_put h.nodup index []⟩
    rw [Slots.get?_put, h.get?]
    by_cases ho : other = index
    · subst ho
      simp [hempty]
    · simp [ho]

theorem isSome_get?_iff (h : Holds active passes slots) (index : Nat) :
    (slots.get? index).isSome = true ↔ index ∈ active := by
  rw [h.get?]
  by_cases hmem : index ∈ active <;> simp [hmem]

/-- There are as many slots as different modifiers that have one. -/
theorem length (h : Holds active passes slots) : slots.length = active.dedup.length := by
  have hperm : (slots.map Prod.fst).Perm active.dedup := by
    rw [List.perm_ext_iff_of_nodup h.nodup active.nodup_dedup]
    intro index
    rw [Slots.mem_keys_iff, h.isSome_get?_iff, List.mem_dedup]
  simpa using hperm.length_eq

/-- A run of armed modifiers, also one that fails, makes the passes that the history tells. -/
theorem applyAll {armed : List Armed} (h : Holds active passes slots)
    (hactive : ∀ a ∈ armed, a.index ∈ active) (passage : Passage) :
    Holds active (passes ++ History.passesOn passes passage armed)
        (Modifier.applyAll armed passage slots).slots ∧
      (Modifier.applyAll armed passage slots).runs =
        (History.passesOn passes passage armed).map Pass.run := by
  induction armed generalizing passes slots passage with
  | nil => exact ⟨by simpa [History.passesOn, Modifier.applyAll] using h, rfl⟩
  | cons a rest ih =>
    have hmem : a.index ∈ active := hactive a List.mem_cons_self
    have hput := h.put ⟨a, passage⟩ hmem
    have hleft : a.modifier.handle passage (slots.get a.index) a.invocation =
        Pass.on ⟨a, passage⟩ (Pass.threaded a.index passes) := by
      rw [h.get hmem]
      rfl
    simp only [Modifier.applyAll, History.passesOn, hleft]
    cases hfault : (Pass.on ⟨a, passage⟩ (Pass.threaded a.index passes)).fault with
    | some fault => exact ⟨hput, rfl⟩
    | none =>
      obtain ⟨hlater, hruns⟩ := ih hput
        (fun later hlater => hactive later (List.mem_cons_of_mem a hlater))
        (Pass.on ⟨a, passage⟩ (Pass.threaded a.index passes)).passage
      rw [List.append_cons]
      exact ⟨hlater, congrArg _ hruns⟩

end Holds

/-- A window and the runs made in it are as a history tells. -/
structure Tracks (history : List Use) (window : Window) (runs : List Run) : Prop where
  armed : window.armed = History.armed history
  slots : Holds (History.activated history) (History.passes history) window.slots
  runs : runs = (History.passes history).map Pass.run

theorem tracks_empty : Tracks [] .empty [] where
  armed := rfl
  slots := ⟨by simp [History.passes], fun _ => rfl, List.nodup_nil⟩
  runs := rfl

/-- What is armed was activated. -/
theorem activated_of_armed {history : List Use} {a : Armed} (h : a ∈ History.armed history) :
    a.index ∈ History.activated history := by
  induction history with
  | nil => cases h
  | cons u earlier ih =>
    cases u with
    | activate b =>
      rcases List.mem_append.mp h with h | h
      · exact List.mem_cons_of_mem _ (ih h)
      · rw [List.mem_singleton.mp h]
        exact List.mem_cons_self
    | apply passage => cases h
    | discard => cases h

theorem Tracks.use {history : List Use} {window : Window} {runs : List Run}
    (h : Tracks history window runs) (u : Use) :
    Tracks (u :: history) (window.use u).1 (runs ++ (window.use u).2) := by
  cases u with
  | activate a =>
    exact ⟨congrArg (· ++ [a]) h.armed, h.slots.create a.index, by
      rw [Window.use, List.append_nil]; exact h.runs⟩
  | apply passage =>
    have hactive : ∀ a ∈ window.armed, a.index ∈ History.activated history := by
      intro a ha
      rw [h.armed] at ha
      exact activated_of_armed ha
    obtain ⟨hslots, hruns⟩ := h.slots.applyAll hactive passage
    rw [h.armed] at hslots hruns
    refine ⟨rfl, ?_, ?_⟩
    · simpa [Window.use, Window.apply, History.activated, History.passes, h.armed] using hslots
    · simp [Window.use, Window.apply, History.passes, h.armed, h.runs, hruns]
  | discard =>
    exact ⟨rfl, h.slots, by rw [Window.use, List.append_nil]; exact h.runs⟩

theorem tracks_useAll (uses : List Use) :
    Tracks uses.reverse (Window.empty.useAll uses).1 (Window.empty.useAll uses).2 := by
  induction uses using List.reverseRecOn with
  | nil => exact tracks_empty
  | append_singleton uses u ih =>
    rw [Window.useAll_concat, List.reverse_concat]
    exact ih.use u

/-- Nothing that is done later makes an activation undone. -/
theorem activated_append (later earlier : List Use) :
    History.activated (later ++ earlier) =
      History.activated later ++ History.activated earlier := by
  induction later with
  | nil => rfl
  | cons u later ih => cases u <;> simp [History.activated, ih]

/-- The whole of a window from its history: what is armed, which modifiers have a slot and how many,
what each slot holds, and which handlers were run. Slots stay, and an applied window has nothing
armed, whether a handler failed or not. -/
theorem window_tracks_uses (uses : List Use) :
    let window := (Window.empty.useAll uses).1
    let history := uses.reverse
    window.armed = History.armed history ∧
    (∀ index, (window.slots.get? index).isSome = true ↔ index ∈ History.activated history) ∧
    window.slots.length = (History.activated history).dedup.length ∧
    (∀ index slot, window.slots.get? index = some slot →
      slot = Pass.threaded index (History.passes history)) ∧
    (Window.empty.useAll uses).2 = (History.passes history).map Pass.run ∧
    (∀ later index, (window.slots.get? index).isSome = true →
      ((Window.empty.useAll (uses ++ later)).1.slots.get? index).isSome = true) ∧
    ∀ passage, (Window.empty.useAll (uses ++ [.apply passage])).1.armed = [] := by
  have htracks := tracks_useAll uses
  refine ⟨htracks.armed, htracks.slots.isSome_get?_iff, htracks.slots.length, ?held, htracks.runs,
    ?kept, ?disarmed⟩
  case held =>
    intro index slot hslot
    have hmem : index ∈ History.activated uses.reverse :=
      (htracks.slots.isSome_get?_iff index).mp (by rw [hslot]; rfl)
    rw [htracks.slots.get?, if_pos hmem] at hslot
    exact (Option.some.inj hslot).symm
  case kept =>
    intro later index hsome
    rw [(tracks_useAll (uses ++ later)).slots.isSome_get?_iff, List.reverse_append,
      activated_append]
    exact List.mem_append_right _ ((htracks.slots.isSome_get?_iff index).mp hsome)
  case disarmed =>
    intro passage
    rw [Window.useAll_concat]
    rfl

/-- A malformed test that fails before a note is run: both are disarmed, and both keep a slot. -/
theorem failed_test_keeps_slots :
    let uses : List Use :=
      [.activate ⟨0, Builtin.ofName (fun _ => none) .conditional, "if ("⟩,
        .activate ⟨1, Builtin.ofName (fun _ => none) .note, "note"⟩, .apply (.ofText "Body")]
    let window := (Window.empty.useAll uses).1
    window.armed = [] ∧ window.slots.length = 2 ∧
      (Window.empty.useAll uses).2 = [⟨0, "conditional", "if (", "Body"⟩] := by
  intro uses window
  obtain ⟨harmed, -, hlength, -, hruns, -⟩ := window_tracks_uses uses
  exact ⟨harmed, hlength.trans (by decide +kernel), hruns.trans (by decide +kernel)⟩

end StoryPress.Modifier
