import StoryPress.Proofs.Condition.Tokens
import StoryPress.Proofs.Modifier.Conditional
import StoryPress.Story.File

namespace StoryPress.Story

open StoryPress.Json (Lookup Value)
open StoryPress.Modifier (Passage Slot)
open StoryPress.Modifier.Builtin
open StoryPress.Text (AllBlank isBlank trimChars)

variable {source : String} {condition : Condition.Expr}

def ifBlock (source : String) : String := "if " ++ source

theorem words_ifBlock (h : trimChars source.toList ≠ []) : ∃ lead, AllBlank lead ∧
    words (ifBlock source) = ['i', 'f', ' '] ++ lead ++ trimChars source.toList := by
  obtain ⟨lead, trail, hsource, hlead, htrail⟩ := Text.exists_trim source.toList
  refine ⟨lead, hlead, ?_⟩
  have htrimmed : Text.Trimmed (['i', 'f', ' '] ++ lead ++ trimChars source.toList) := by
    constructor
    · intro c hc
      cases hc
      decide
    · rw [List.getLast?_append_of_ne_nil _ h]
      exact (Text.trimmed_trimChars _).2
  have hinvocation : (ifBlock source).toList =
      [] ++ (['i', 'f', ' '] ++ lead ++ trimChars source.toList) ++ trail := by
    rw [ifBlock, String.toList_append, List.nil_append, List.append_assoc, List.append_assoc,
      ← List.append_assoc lead, ← hsource]
    rfl
  rw [words, hinvocation, Text.trimChars_append (List.forall_mem_nil _) htrail htrimmed]

theorem head?_fold_i (cs : List Char) : (fold ('i' :: cs)).head? = some 'i' := by
  rw [fold, List.map_cons, List.head?_cons]
  decide +kernel

theorem afterKeyword?_if {lead body : List Char} (hlead : AllBlank lead)
    (hbody : Text.Trimmed body) :
    afterKeyword? "if" (['i', 'f', ' '] ++ lead ++ body) = some body := by
  have htake : (['i', 'f', ' '] ++ lead ++ body).take "if".toList.length = ['i', 'f'] := rfl
  have hdrop : (['i', 'f', ' '] ++ lead ++ body).drop "if".toList.length = ' ' :: (lead ++ body) :=
    rfl
  have hfold : fold ['i', 'f'] = "if".toList := by decide +kernel
  have hspace : isBlank ' ' = true := by decide
  have hrest : (' ' :: (lead ++ body)).dropWhile isBlank = body := by
    rw [List.dropWhile_cons_of_pos hspace, List.dropWhile_append_of_pos hlead,
      Text.dropWhile_of_head? hbody.1]
  simp only [afterKeyword?, htake, hdrop, hfold, hrest, hspace, List.head?_cons, Option.map_some,
    Option.getD_some, beq_self_eq_true, Bool.and_self, if_true]

theorem afterKeyword?_unless (cs : List Char) : afterKeyword? "unless" ('i' :: cs) = none := by
  rw [Option.eq_none_iff_forall_ne_some]
  intro rest hrest
  have hfirst := congrArg List.head? (fold_of_afterKeyword? hrest)
  have htake : ('i' :: cs).take "unless".toList.length = 'i' :: cs.take 5 := rfl
  rw [htake, head?_fold_i] at hfirst
  exact absurd hfirst (by decide)

theorem branch?_ifBlock (h : trimChars source.toList ≠ []) :
    branch? (ifBlock source) = if '\n' ∈ trimChars source.toList then none
      else some (.test ['i', 'f'] (trimChars source.toList)) := by
  obtain ⟨lead, hlead, hwords⟩ := words_ifBlock h
  have hif := afterKeyword?_if hlead (Text.trimmed_trimChars source.toList)
  have hunless : afterKeyword? "unless" (words (ifBlock source)) = none :=
    hwords ▸ afterKeyword?_unless _
  have helse : fold (words (ifBlock source)) ≠ "else".toList := by
    intro hfold
    have hfirst := congrArg List.head? (hwords ▸ hfold)
    rw [List.append_assoc, List.cons_append, head?_fold_i] at hfirst
    exact absurd hfirst (by decide)
  have htake : (words (ifBlock source)).take "if".toList.length = ['i', 'f'] := hwords ▸ rfl
  have hline : (!(trimChars source.toList).isEmpty &&
      (trimChars source.toList).all (· != '\n')) = true ↔ '\n' ∉ trimChars source.toList := by
    simp only [Bool.and_eq_true, Bool.not_eq_true', List.isEmpty_eq_false_iff, h, ne_eq,
      not_false_iff, true_and, List.all_eq_true, bne_iff_ne]
    exact ⟨fun hall hmem => hall _ hmem rfl, fun hmem c hc heq => hmem (heq ▸ hc)⟩
  rw [← hwords] at hif
  unfold branch?
  simp only [hif, hunless, htake, beq_iff_eq, helse, if_false, Option.bind_some, Option.bind_none,
    Option.or_none, hline, ite_not]

/-- A variable with a condition is written exactly if the condition is true. -/
theorem run_compiled (hparse : Condition.parse source = .ok condition) (lookup : Lookup)
    (name : String) (value : Value) : ∃ directive,
      DirectiveEntry.compile ⟨name, value, some source⟩ = .ok directive ∧
      (directive.run lookup).2 = .ok (if condition.isTrue lookup then some value else none) := by
  refine ⟨(Directive.constant name value).given condition, ?_, ?_⟩
  · simp only [DirectiveEntry.compile, hparse]
  · cases htruth : condition.isTrue lookup <;>
      simp [Directive.run, Directive.given, Directive.constant, htruth]

theorem accepts_ifBlock_iff (hparse : Condition.parse source = .ok condition) (lookup : Lookup) :
    (conditional lookup).accepts (ifBlock source) = true ↔ '\n' ∉ trimChars source.toList := by
  have hsome : (branch? (ifBlock source)).isSome = true ↔ '\n' ∉ trimChars source.toList := by
    rw [branch?_ifBlock (Condition.trimChars_ne_nil hparse)]
    split <;> simp_all
  exact hsome

/-- A condition makes an invocation exactly if it stands on one line, blanks around it apart. Its
block is then kept exactly if a directive with the same condition writes its variable. -/
theorem if_block_agrees_with_directive_iff (lookup : Lookup) (slot : Slot) (passage : Passage)
    (source : String) (condition : Condition.Expr) (hparse : Condition.parse source = .ok condition) :
    let holds := condition.isTrue lookup
    (∀ name value, ∃ directive,
      DirectiveEntry.compile ⟨name, value, some source⟩ = .ok directive ∧
      (directive.run lookup).2 = .ok (if holds then some value else none)) ∧
    ((conditional lookup).accepts (ifBlock source) = true ↔ '\n' ∉ trimChars source.toList) ∧
    ((conditional lookup).accepts (ifBlock source) = true →
      (conditional lookup).handle passage slot (ifBlock source) =
        .ok (if holds then passage else .hidden) (slot.put lastCondition (.bool holds))) := by
  intro holds
  refine ⟨run_compiled hparse lookup, accepts_ifBlock_iff hparse lookup, fun haccepts => ?_⟩
  have hline := (accepts_ifBlock_iff hparse lookup).mp haccepts
  have hbranch := branch?_ifBlock (Condition.trimChars_ne_nil hparse)
  rw [if_neg hline] at hbranch
  have hif : isUnless ['i', 'f'] = false := isUnless_of_if (by decide +kernel)
  rw [handle_test hbranch (Condition.parse_trim hparse), hif, Bool.bne_false]

theorem block_kept_with_blanks_around :
    (Condition.parse "\n x\t").toOption.map (Condition.Expr.isTrue yes) = some true ∧
      ∃ kept, (conditional yes).handle (.ofText "Body") [] (ifBlock "\n x\t") =
        .ok (.ofText "Body") kept := by
  have htrue : (Condition.parse "\n x\t").toOption.map (Condition.Expr.isTrue yes) = some true := by
    decide +kernel
  refine ⟨htrue, ?_⟩
  cases hparse : Condition.parse "\n x\t" with
  | error e => simp [hparse, Except.toOption] at htrue
  | ok condition =>
    have htruth : condition.isTrue yes = true := by simpa [hparse, Except.toOption] using htrue
    obtain ⟨-, haccepts, hhandle⟩ := if_block_agrees_with_directive_iff yes [] (.ofText "Body")
      "\n x\t" condition hparse
    have hkept := hhandle (haccepts.mpr (by decide))
    rw [htruth] at hkept
    exact ⟨_, hkept⟩

/-- A condition of two lines that is false. No built-in modifier takes it for an invocation, and so
the block after it stays. -/
theorem condition_on_two_lines_unmatched :
    let source := "true\n&& false"
    (Condition.parse source).toOption.map (Condition.Expr.isTrue yes) = some false ∧
      (conditional yes).accepts (ifBlock source) = false ∧
      (registry yes []).resolve (ifBlock source) = .unmatched := by
  decide +kernel

end StoryPress.Story
