import StoryPress.Proofs.Modifier.Effects
import Mathlib.Data.List.Induction
import Mathlib.Data.List.Pairwise

namespace StoryPress.Modifier.Builtin

open StoryPress.Json (Lookup)
open Effect (isJoin isWrap onAll sinceHide)

/-- At how many places of a text one of some parts starts. -/
def occurrences (parts : List String) : List Char → Nat
  | [] => 0
  | c :: rest =>
    let here := parts.any fun part => part.toList.isPrefixOf (c :: rest)
    (if here then 1 else 0) + occurrences parts rest

def openings (s : String) : Nat := occurrences (directions.map alignOpening) s.toList

def closings (s : String) : Nat := occurrences [alignClosing] s.toList

/-- A part does not reach over a character that it can only start with. -/
theorem prefix_append_iff {part xs ys : List Char} {c : Char} (h : c ∉ part.tail) (x : Char) :
    part <+: x :: (xs ++ c :: ys) ↔ part <+: x :: xs := by
  have hshort : x :: xs <+: x :: (xs ++ c :: ys) := List.prefix_append (x :: xs) (c :: ys)
  refine ⟨fun hpart => ?_, fun hpart => hpart.trans hshort⟩
  rcases Nat.lt_or_ge (x :: xs).length part.length with hlong | hle
  · have hreach : x :: xs ++ [c] <+: x :: (xs ++ c :: ys) := ⟨ys, by simp⟩
    have hlength : (x :: xs ++ [c]).length ≤ part.length := by
      simpa using Nat.succ_le_of_lt hlong
    obtain ⟨more, rfl⟩ := List.prefix_of_prefix_length_le hreach hpart hlength
    simp at h
  · exact List.prefix_of_prefix_length_le hpart hshort hle

theorem occurrences_append {parts : List String} {c : Char} {ys : List Char}
    (h : ∀ part ∈ parts, c ∉ part.toList.tail) (hys : ys.head? = some c) (xs : List Char) :
    occurrences parts (xs ++ ys) = occurrences parts xs + occurrences parts ys := by
  obtain ⟨rest, rfl⟩ := List.head?_eq_some_iff.mp hys
  induction xs with
  | nil => simp [occurrences]
  | cons x xs ih =>
    have hhere : (parts.any fun part => part.toList.isPrefixOf (x :: (xs ++ c :: rest))) =
        parts.any fun part => part.toList.isPrefixOf (x :: xs) := by
      rw [Bool.eq_iff_iff, List.any_eq_true, List.any_eq_true]
      refine exists_congr fun part => and_congr_right fun hmem => ?_
      rw [List.isPrefixOf_iff_prefix, List.isPrefixOf_iff_prefix]
      exact prefix_append_iff (h part hmem) x
    rw [List.cons_append, occurrences, occurrences, ih, hhere]
    exact (Nat.add_assoc _ _ _).symm

theorem openings_append (s : String) {t : String} (h : t.toList.head? = some '<') :
    openings (s ++ t) = openings s + openings t := by
  have hparts : ∀ part ∈ directions.map alignOpening, '<' ∉ part.toList.tail := by decide +kernel
  rw [openings, String.toList_append]
  exact occurrences_append hparts h s.toList

theorem closings_append (s : String) {t : String} (h : t.toList.head? = some '\n') :
    closings (s ++ t) = closings s + closings t := by
  have hparts : ∀ part ∈ [alignClosing], '\n' ∉ part.toList.tail := by decide +kernel
  rw [closings, String.toList_append]
  exact occurrences_append hparts h s.toList

theorem openings_opened (s : String) {direction : String} (h : direction ∈ directions) :
    openings (s ++ alignOpening direction ++ separator) = openings s + 1 := by
  have hhead : ∀ d ∈ directions, (alignOpening d ++ separator).toList.head? = some '<' := by
    decide +kernel
  have hone : ∀ d ∈ directions, openings (alignOpening d ++ separator) = 1 := by decide +kernel
  rw [String.append_assoc, openings_append s (hhead direction h), hone direction h]

theorem closings_closed (s : String) :
    closings (s ++ separator ++ alignClosing) = closings s + 1 := by
  have hone : closings (separator ++ alignClosing) = 1 := by decide +kernel
  rw [String.append_assoc, closings_append s (by decide +kernel), hone]

@[simp] theorem openings_separator : openings separator = 0 := by decide +kernel

@[simp] theorem openings_space : openings " " = 0 := by decide +kernel

@[simp] theorem openings_empty : openings "" = 0 := rfl

@[simp] theorem closings_empty : closings "" = 0 := rfl

/-- The alignments since the last effect that hides have their closings, and there are no others. -/
theorem closings_onAll (done : List Effect) (text : String) :
    closings (onAll done (.ofText text)).after = (sinceHide done).countP isWrap := by
  induction done using List.reverseRecOn with
  | nil => exact closings_empty
  | append_singleton done e ih =>
    rw [Effect.onAll_concat, Effect.sinceHide_concat]
    cases e with
    | wrap direction known =>
      rw [if_neg Effect.noConfusion, List.countP_append, ← ih]
      exact closings_closed _
    | hide => exact closings_empty
    | space | attach | style | keep =>
      rw [if_neg Effect.noConfusion, List.countP_append, ← ih]
      rfl

/-- No alignment that still counts has lost its opening. -/
def KeepsOpenings (done : List Effect) : Prop :=
  (sinceHide done).Pairwise fun e later => e.isWrap = true → later.isJoin = false

instance (done : List Effect) : Decidable (KeepsOpenings done) :=
  inferInstanceAs (Decidable (List.Pairwise _ _))

theorem keepsOpenings_concat {done : List Effect} {e : Effect} (h : e ≠ .hide) :
    KeepsOpenings (done ++ [e]) ↔
      KeepsOpenings done ∧ (e.isJoin = true → (sinceHide done).countP isWrap = 0) := by
  rw [KeepsOpenings, Effect.sinceHide_concat, if_neg h, List.pairwise_append, KeepsOpenings]
  refine and_congr_right fun _ => ?_
  simp only [List.pairwise_singleton, true_and, List.mem_singleton, forall_eq,
    List.countP_eq_zero, Bool.not_eq_true]
  cases e.isJoin <;> simp

/-- Where nothing is aligned, nothing can be lost. -/
theorem keepsOpenings_of_countP_eq_zero {done : List Effect}
    (h : (sinceHide done).countP isWrap = 0) : KeepsOpenings done := by
  rw [List.countP_eq_zero] at h
  refine List.pairwise_of_forall_mem_list fun e he later _ hwrap => ?_
  exact absurd hwrap (h e he)

theorem openings_eq_closings_iff (done : List Effect) (text : String) :
    openings (onAll done (.ofText text)).before = closings (onAll done (.ofText text)).after ↔
      KeepsOpenings done := by
  induction done using List.reverseRecOn with
  | nil => exact iff_of_true openings_separator List.Pairwise.nil
  | append_singleton done e ih =>
    have hcount := closings_onAll done text
    rw [Effect.onAll_concat]
    cases e with
    | wrap direction known =>
      have hopened := openings_opened (onAll done (.ofText text)).before known
      have hclosed := closings_closed (onAll done (.ofText text)).after
      rw [keepsOpenings_concat Effect.noConfusion, ← ih]
      simp only [Effect.on, hopened, hclosed, Nat.add_right_cancel_iff]
      simp [isJoin]
    | hide =>
      refine iff_of_true rfl ?_
      rw [KeepsOpenings, Effect.sinceHide_concat, if_pos rfl]
      exact List.Pairwise.nil
    | space | attach =>
      rw [keepsOpenings_concat Effect.noConfusion, ← hcount]
      simp only [Effect.on, openings_space, openings_empty]
      constructor
      · intro hnone
        exact ⟨keepsOpenings_of_countP_eq_zero (hcount.symm.trans hnone.symm), fun _ => hnone.symm⟩
      · rintro ⟨-, hnone⟩
        exact (hnone rfl).symm
    | style | keep =>
      rw [keepsOpenings_concat Effect.noConfusion, ← ih]
      simp [Effect.on, isJoin]

/-- After any calls of built-in modifiers none of which fails, openings and closings are equal in
number exactly if no `append` or `continue` ran after an alignment that no later call hid. -/
theorem wrappers_balanced_iff (lookup : Lookup) (calls : List Call) (slots : Slots) (text : String)
    (ok : (applyAll (calls.map (Call.arm lookup)) (.ofText text) slots).error = none) :
    let passage := (applyAll (calls.map (Call.arm lookup)) (.ofText text) slots).passage
    let done := effects lookup slots.get calls
    closings passage.after = (sinceHide done).countP isWrap ∧
      (openings passage.before = closings passage.after ↔ KeepsOpenings done) := by
  intro passage done
  have hpassage : passage = onAll done (.ofText text) := passage_applyAll ok
  rw [hpassage]
  exact ⟨closings_onAll done text, openings_eq_closings_iff done text⟩

/-- An `append` before an alignment does no harm. -/
theorem append_before_align_balanced :
    let calls : List Call := [⟨1, .append, "append"⟩, ⟨0, .align, "align center"⟩]
    let passage := (applyAll (calls.map (Call.arm fun _ => none)) (.ofText "Middle") []).passage
    openings passage.before = closings passage.after ∧ closings passage.after = 1 := by
  intro calls passage
  have hbalanced := wrappers_balanced_iff (fun _ => none) calls [] "Middle" rfl
  have heffects : effects (fun _ => none) (Slots.get []) calls =
      [.space, .wrap "center" (by decide)] := by decide +kernel
  have hkeeps : KeepsOpenings [.space, .wrap "center" (by decide)] := by decide +kernel
  rw [heffects] at hbalanced
  exact ⟨hbalanced.2.mpr hkeeps, hbalanced.1⟩

/-- After an alignment it drops the opening, and the closing stays. -/
theorem append_after_align_unbalanced :
    let calls : List Call := [⟨0, .align, "align center"⟩, ⟨1, .append, "append"⟩]
    let applied := applyAll (calls.map (Call.arm fun _ => none)) (.ofText "Middle") []
    (∀ call ∈ calls, (ofName (fun _ => none) call.name).accepts call.invocation = true) ∧
      applied.error = none ∧ applied.passage = ⟨" ", "Middle", "\n\n</div>"⟩ ∧
      openings applied.passage.before = 0 ∧ closings applied.passage.after = 1 := by
  decide +kernel

end StoryPress.Modifier.Builtin
