import StoryPress.Proofs.Modifier.Builtins
import StoryPress.Proofs.Text.Fold

namespace StoryPress.Modifier.Builtin

open StoryPress.Json (Lookup)
open StoryPress.Text (kelvin longS)

theorem fold_of_afterKeyword? {keyword : String} {cs rest : List Char}
    (h : afterKeyword? keyword cs = some rest) :
    fold (cs.take keyword.toList.length) = keyword.toList := by
  unfold afterKeyword? at h
  dsimp only at h
  split at h
  · next hkeyword =>
    simp only [Bool.and_eq_true, beq_iff_eq] at hkeyword
    exact hkeyword.1
  · cases h

theorem fold_keyword {invocation : String} {keyword expr : List Char}
    (hb : branch? invocation = some (.test keyword expr)) :
    fold keyword = "if".toList ∨ fold keyword = "unless".toList := by
  rcases branch?_cases hb with ⟨-, hother⟩ | ⟨word, hmem, rest, hafter, -, -, htest⟩
  · cases hother
  · cases htest
    have hfold := fold_of_afterKeyword? hafter
    simp only [List.mem_cons, List.not_mem_nil, or_false] at hmem
    rcases hmem with rfl | rfl
    · exact .inl hfold
    · exact .inr hfold

/-- A letter of `unless` as it may be written: in ASCII, or as a long s. -/
theorem letter_of_unless {c : Char} (h : Text.foldSimple c ∈ "unless".toList) :
    c.toNat < 128 ∨ c = longS := by
  rcases Nat.lt_or_ge c.toNat 128 with hascii | hwide
  · exact .inl hascii
  · have hrange : "unless".toList.all (fun d => decide (0 < d.toNat ∧ d.toNat < 128)) = true := by
      decide
    obtain ⟨hpos, hlt⟩ := of_decide_eq_true (List.all_eq_true.mp hrange _ h)
    rcases Text.eq_of_foldSimple_ascii hwide hpos hlt with rfl | rfl
    · exact .inr rfl
    · exact absurd h (by decide +kernel)

theorem isUnless_iff {keyword : List Char} (h : fold keyword = "unless".toList) :
    isUnless keyword = true ↔ longS ∉ keyword := by
  rw [isUnless, beq_iff_eq]
  constructor
  · intro hlower hmem
    have hletter : longS.toLower ∈ "unless".toList := hlower ▸ List.mem_map_of_mem hmem
    exact absurd hletter (by decide)
  · intro hno
    rw [← h]
    refine List.map_congr_left fun c hc => ?_
    have hletter : Text.foldSimple c ∈ "unless".toList := h ▸ List.mem_map_of_mem hc
    rcases letter_of_unless hletter with hascii | rfl
    · exact (Text.foldSimple_ascii hascii).symm
    · exact absurd hc hno

theorem isUnless_of_if {keyword : List Char} (h : fold keyword = "if".toList) :
    isUnless keyword = false := by
  rw [isUnless, beq_eq_false_iff_ne]
  intro hlower
  have hsix : keyword.length = 6 := by simpa using congrArg List.length hlower
  have htwo : keyword.length = 2 := by simpa [fold] using congrArg List.length h
  omega

variable {lookup : Lookup} {slot : Slot} {invocation : String} {keyword expr : List Char}
  {condition : Condition.Expr}

theorem handle_test (hb : branch? invocation = some (.test keyword expr))
    (hparse : Condition.parse (String.ofList expr) = .ok condition) (passage : Passage) :
    let shown := condition.isTrue lookup != isUnless keyword
    (conditional lookup).handle passage slot invocation =
      .ok (if shown then passage else .hidden) (slot.put lastCondition (.bool shown)) := by
  simp only [conditional, verdict, hb, hparse]

/-- A test of a condition never fails. Through `if` it keeps its block exactly if the condition is
true, and through `unless` exactly if it is false, unless the keyword has a long s in it. The outcome
stays in the slot. -/
theorem unless_complements_if_iff (lookup : Lookup) (slot : Slot) (passage : Passage)
    (invocation : String) (keyword expr : List Char) (condition : Condition.Expr)
    (hb : branch? invocation = some (.test keyword expr))
    (hparse : Condition.parse (String.ofList expr) = .ok condition) :
    let truth := condition.isTrue lookup
    ∃ shown : Bool,
      (conditional lookup).handle passage slot invocation =
        .ok (if shown then passage else .hidden) (slot.put lastCondition (.bool shown)) ∧
      (fold keyword = "if".toList ∧ shown = truth ∨
        fold keyword = "unless".toList ∧ (shown = !truth ↔ longS ∉ keyword)) := by
  intro truth
  refine ⟨truth != isUnless keyword, handle_test hb hparse passage, ?_⟩
  rcases fold_keyword hb with hif | hunless
  · refine .inl ⟨hif, ?_⟩
    rw [isUnless_of_if hif, Bool.bne_false]
  · refine .inr ⟨hunless, ?_⟩
    rw [← isUnless_iff hunless]
    cases truth <;> cases isUnless keyword <;> decide

/-- A variable that is true. -/
def yes : Lookup := fun _ => some (.bool true)

theorem unless_hides_in_capitals :
    branch? "UNLESS x" = some (.test "UNLESS".toList ['x']) ∧
      ∃ kept, (conditional yes).handle (.ofText "Body") [] "UNLESS x" = .ok .hidden kept := by
  have hb : branch? "UNLESS x" = some (.test "UNLESS".toList ['x']) := by decide +kernel
  have htrue : (Condition.parse (String.ofList ['x'])).toOption.map (Condition.Expr.isTrue yes) =
      some true := by decide +kernel
  cases hparse : Condition.parse (String.ofList ['x']) with
  | error e => simp [hparse, Except.toOption] at htrue
  | ok condition =>
    have htruth : condition.isTrue yes = true := by simpa [hparse, Except.toOption] using htrue
    obtain ⟨shown, hhandle, hcases⟩ := unless_complements_if_iff yes [] (.ofText "Body")
      "UNLESS x" "UNLESS".toList ['x'] condition hb hparse
    rw [htruth] at hcases
    have hshown : shown = false := by
      rcases hcases with ⟨hif, -⟩ | ⟨-, hunless⟩
      · exact absurd hif (by decide +kernel)
      · exact hunless.mpr (by decide +kernel)
    exact ⟨hb, _, by rw [hhandle, hshown]; rfl⟩

/-- The modifier accepts a long s in the keyword, and then the block is kept where it should be
hidden. -/
theorem unless_with_long_s_keeps_block :
    let invocation := "unle\u017fs x"
    let keyword := "unle\u017fs".toList
    (conditional yes).accepts invocation = true ∧
      branch? invocation = some (.test keyword ['x']) ∧ fold keyword = "unless".toList ∧
      (Condition.parse "x").toOption.map (Condition.Expr.isTrue yes) = some true ∧
      ((conditional yes).handle (.ofText "Body") [] invocation).passage = .ofText "Body" := by
  decide +kernel

end StoryPress.Modifier.Builtin
