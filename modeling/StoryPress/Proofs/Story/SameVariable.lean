import StoryPress.Proofs.Story.Inserts
import StoryPress.Proofs.Story.SameCondition

namespace StoryPress.Story

open StoryPress.Condition (fieldAt lookupPath)
open StoryPress.Json (Lookup Value)
open StoryPress.Modifier (Passage Slot)
open StoryPress.Modifier.Builtin

theorem fieldAt_eq (value : Value) (keys : List String) :
    fieldAt value keys = (keys.foldlM Value.field? value).getD .null := by
  induction keys generalizing value with
  | nil => rfl
  | cons key keys ih =>
    rw [fieldAt, List.foldlM_cons]
    cases value.field? key with
    | none => rfl
    | some inner => exact ih inner

theorem lookupPath_eq (lookup : Lookup) (path : String) :
    lookupPath lookup path = (Value.resolve lookup path).getD .null := by
  rw [lookupPath, Value.resolve]
  cases lookup path with
  | some value => rfl
  | none =>
    cases Text.split '.' path with
    | nil => rfl
    | cons root keys =>
      cases hroot : lookup root with
      | none => simp only [hroot, Option.bind_none, Option.getD_none]
      | some value => simp only [hroot, Option.bind_some, fieldAt_eq]

/-- The words that are operators or literals in a condition. -/
def reserved : List String := ["and", "or", "not", "true", "false", "null", "undefined"]

/-- A name that a placeholder may have, in ASCII and not reserved in conditions. -/
structure IsPlainName (name : String) : Prop where
  isName : Insert.IsName name.toList
  ascii : ∀ c ∈ name.toList, c.toNat < 128
  free : name ∉ reserved

theorem isNameRest_of_not_stops {c : Char} (hascii : c.toNat < 128) (h : ¬ Insert.Stops c) :
    Condition.Token.isNameRest c = true := by
  by_contra hrest
  rw [Bool.not_eq_true, Condition.Token.isNameRest, Bool.or_eq_false_iff] at hrest
  refine h ⟨?_, by simpa using hrest.2⟩
  rw [Insert.isNameRest, Text.isWord_of_ascii hascii]
  exact hrest.1

theorem takeWhile_name {rest : List Char} (h : Insert.nameRest rest = rest)
    (hascii : ∀ c ∈ rest, c.toNat < 128) : rest.takeWhile Condition.Token.isNameRest = rest := by
  rw [List.takeWhile_eq_self_iff]
  intro c hc
  exact isNameRest_of_not_stops (hascii c hc)
    (Insert.not_stops_of_mem_nameRest (by rwa [h]))

theorem ofWord_of_free {name : String} (h : name ∉ reserved) :
    Condition.Token.ofWord name.toList = .name name := by
  simp only [reserved, List.mem_cons, List.not_mem_nil, or_false, not_or] at h
  obtain ⟨hand, hor, hnot, -⟩ := h
  have hand : name.toList ≠ ['a', 'n', 'd'] := fun h => hand (String.toList_injective h)
  have hor : name.toList ≠ ['o', 'r'] := fun h => hor (String.toList_injective h)
  have hnot : name.toList ≠ ['n', 'o', 't'] := fun h => hnot (String.toList_injective h)
  rw [Condition.Token.ofWord, if_neg hand, if_neg hor, if_neg hnot, String.ofList_toList]

theorem ofName_of_free {name : String} (h : name ∉ reserved) :
    Condition.Expr.ofName name = .var name := by
  simp only [reserved, List.mem_cons, List.not_mem_nil, or_false, not_or] at h
  simp [Condition.Expr.ofName, h]

theorem tokenize_name {name : String} (h : IsPlainName name) :
    Condition.tokenize name = .ok [(.name name, 0)] := by
  obtain ⟨c, rest, hname, hstart, hrest⟩ := h.isName.exists_cons
  have hascii : ∀ d ∈ rest, d.toNat < 128 := fun d hd =>
    h.ascii d (by rw [hname]; exact List.mem_cons_of_mem c hd)
  have hblank : Text.isAsciiBlank c ≠ true := fun hc =>
    absurd (Text.isBlank_of_isAsciiBlank hc)
      (Bool.eq_false_iff.mp (Insert.isBlank_of_isNameStart hstart))
  have hword : Condition.Token.ofWord (c :: rest) = .name name := hname ▸ ofWord_of_free h.free
  have hletter : Condition.Token.isNameStart c = true := hstart
  rw [Condition.tokenize, hname, Condition.tokens, if_neg hblank,
    Condition.Token.lexeme_word hletter, takeWhile_name hrest hascii, hword]
  simp only [List.drop_length]
  rw [Condition.tokens]

theorem parse_name {name : String} (h : IsPlainName name) :
    Condition.parse name = .ok (.var name) := by
  have hread : Condition.Expr.ofTokens [(.name name, 0)] = .ok (.ofName name) := rfl
  rw [Condition.parse, tokenize_name h, ← ofName_of_free h.free]
  exact hread

theorem newline_not_mem_trim {name : List Char} (h : Insert.IsName name) :
    '\n' ∉ Text.trimChars name := by
  intro hmem
  obtain ⟨lead, trail, hname, -, -⟩ := Text.exists_trim name
  have hin : '\n' ∈ name := by
    rw [hname]
    exact List.mem_append_left trail (List.mem_append_right lead hmem)
  exact h.not_mem (Insert.stops_of_isBlank (by decide)) hin

/-- An `if` block whose condition is a name is kept exactly if the variable is true. -/
theorem handle_name {name : String} (h : IsPlainName name) (lookup : Lookup) (passage : Passage)
    (slot : Slot) :
    let shown := (lookupPath lookup name).isTruthy
    (conditional lookup).accepts (ifBlock name) = true ∧
      (conditional lookup).handle passage slot (ifBlock name) =
        .ok (if shown then passage else .hidden) (slot.put lastCondition (.bool shown)) := by
  intro shown
  have hparse := parse_name h
  have hline := newline_not_mem_trim h.isName
  have hbranch := branch?_ifBlock (Condition.trimChars_ne_nil hparse)
  rw [if_neg hline] at hbranch
  have hif : isUnless ['i', 'f'] = false := isUnless_of_if (by decide +kernel)
  refine ⟨(accepts_ifBlock_iff hparse lookup).mpr hline, ?_⟩
  rw [handle_test hbranch (Condition.parse_trim hparse), hif, Bool.bne_false]
  rfl

/-- The placeholder of a name, alone in its text. -/
theorem substitute_braced {name : String} (h : Insert.IsName name.toList) (lookup : Lookup) :
    Insert.substitute lookup (Insert.braced name) = Insert.shown lookup name := by
  have halone := Insert.substitute_placeholder lookup h "" ""
  simpa [Insert.substitute_empty] using halone

/-- A condition finds at a path what an insert finds there, with null for what is not there. A plain
name is a condition that consists of that variable, so its block is kept exactly if the value that
its placeholder inserts is true, and hidden if the placeholder stays. -/
theorem condition_and_insert_agree (lookup : Lookup) :
    (∀ path, lookupPath lookup path = (Value.resolve lookup path).getD .null) ∧
    ∀ name, IsPlainName name →
      Condition.parse name = .ok (.var name) ∧
      ∀ passage slot, ∃ shown kept,
        (conditional lookup).accepts (ifBlock name) = true ∧
        (conditional lookup).handle passage slot (ifBlock name) =
          .ok (if shown then passage else .hidden) kept ∧
        (∀ value, Value.resolve lookup name = some value →
          Insert.substitute lookup (Insert.braced name) = Insert.valueText value ∧
            shown = value.isTruthy) ∧
        (Value.resolve lookup name = none →
          Insert.substitute lookup (Insert.braced name) = Insert.braced name ∧ shown = false) := by
  refine ⟨lookupPath_eq lookup, fun name hname => ⟨parse_name hname, fun passage slot => ?_⟩⟩
  obtain ⟨haccepts, hhandle⟩ := handle_name hname lookup passage slot
  refine ⟨_, _, haccepts, hhandle, fun value hvalue => ?_, fun hnone => ?_⟩
  · rw [substitute_braced hname.isName, Insert.shown_of_some hvalue, lookupPath_eq, hvalue]
    exact ⟨rfl, rfl⟩
  · rw [substitute_braced hname.isName, Insert.shown, lookupPath_eq, hnone]
    exact ⟨rfl, rfl⟩

/-- A field of a variable that an `if` block and a placeholder both name. -/
theorem hero_shown_and_kept :
    let lookup := (Store.ofFields [("hero", .object [("$name_1", .text "Ada")])]).get?
    IsPlainName "hero.$name_1" ∧
      Condition.parse "hero.$name_1" = .ok (.var "hero.$name_1") ∧
      Insert.substitute lookup (Insert.braced "hero.$name_1") = "Ada" ∧
      ∃ kept, (conditional lookup).handle (.ofText "Body") [] (ifBlock "hero.$name_1") =
        .ok (.ofText "Body") kept := by
  intro lookup
  have hname : IsPlainName "hero.$name_1" := by
    refine ⟨by decide +kernel, ?_, by decide⟩
    have hall : "hero.$name_1".toList.all (fun c => decide (c.toNat < 128)) = true := by decide
    simpa only [List.all_eq_true, decide_eq_true_eq] using hall
  have hvalue : Value.resolve lookup "hero.$name_1" = some (.text "Ada") := rfl
  obtain ⟨hparse, hblock⟩ := (condition_and_insert_agree lookup).2 _ hname
  obtain ⟨shown, kept, -, hhandle, hfound, -⟩ := hblock (.ofText "Body") []
  obtain ⟨hinsert, hshown⟩ := hfound _ hvalue
  have htruth : shown = true := hshown.trans (by decide)
  rw [htruth] at hhandle
  exact ⟨hname, hparse, hinsert, kept, hhandle⟩

end StoryPress.Story
