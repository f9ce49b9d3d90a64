import StoryPress.Proofs.Story.Arming
import StoryPress.Proofs.Text.Blank

/-! Every conditional invocation has a verdict that can be told from the invocations before it and
the variables. Handlers run at text blocks only and share one slot; here the slot is shown to hold
the verdict of the last test whatever blocks came between, so that a block is shown exactly if the
verdicts armed for it are all true. -/
namespace StoryPress.Story.Verdict

open StoryPress.Json (Lookup Value)
open StoryPress.Modifier (Armed Handled Passage Slot)
open StoryPress.Modifier.Builtin (Branch Name branch? conditional enabled fold isDisabled isUnless
  lastCondition ofName)
open StoryPress.Story.Piece

/-- Whether an expression is a condition that is true of the variables. -/
def holds (lookup : Lookup) (expr : List Char) : Bool :=
  match Condition.parse (String.ofList expr) with
  | .ok condition => condition.isTrue lookup
  | .error _ => false

def ofTest (lookup : Lookup) (keyword expr : List Char) : Bool :=
  if fold keyword = "unless".toList then !holds lookup expr else holds lookup expr

/-- The verdict of the last `if` or `unless` of a history. -/
def ofLastTest? (lookup : Lookup) : List Block → Option Bool
  | [] => none
  | .text _ :: earlier => ofLastTest? lookup earlier
  | .modifier invocation :: earlier =>
    match branch? invocation with
    | some (.test keyword expr) => some (ofTest lookup keyword expr)
    | _ => ofLastTest? lookup earlier

/-- The verdict of a conditional invocation after a history. -/
def ofBranch (lookup : Lookup) (earlier : List Block) : Branch → Bool
  | .test keyword expr => ofTest lookup keyword expr
  | .otherwise =>
    match ofLastTest? lookup earlier with
    | some last => !last
    | none => false

/-- The verdicts since the last text block of a history. -/
def sinceText (lookup : Lookup) : List Block → List Bool
  | [] => []
  | .text _ :: _ => []
  | .modifier invocation :: earlier =>
    sinceText lookup earlier ++ ((branch? invocation).map (ofBranch lookup earlier)).toList

/-- The tests among blocks spell their keyword in ASCII letters. -/
def AsciiKeywords (blocks : List Block) : Prop :=
  ∀ invocation keyword expr, .modifier invocation ∈ blocks →
    branch? invocation = some (.test keyword expr) → ∀ c ∈ keyword, c.isAlpha = true

theorem AsciiKeywords.tail {block : Block} {earlier : List Block}
    (h : AsciiKeywords (block :: earlier)) : AsciiKeywords earlier := by
  intro invocation keyword expr hmem
  exact h invocation keyword expr (List.mem_cons_of_mem _ hmem)

/-- Folding and lowering agree on ASCII letters. -/
theorem isUnless_eq {keyword : List Char} (h : ∀ c ∈ keyword, c.isAlpha = true) :
    isUnless keyword = (fold keyword == "unless".toList) := by
  have hfold : fold keyword = keyword.map Char.toLower := by
    refine List.map_congr_left ?_
    intro c hc
    exact Text.foldSimple_ascii (Text.toNat_lt_of_isAlpha (h c hc))
  rw [isUnless, hfold]

/-- What the slot of `conditional` should hold after a history. -/
def Recalls (lookup : Lookup) (slot : Slot) (history : List Block) : Prop :=
  Json.Fields.get? slot lastCondition = (ofLastTest? lookup history).map Value.bool

variable {lookup : Lookup} {slot : Slot} {earlier : List Block} {invocation : String}

theorem Recalls.other (h : Recalls lookup slot earlier) (hb : branch? invocation = none) :
    Recalls lookup slot (.modifier invocation :: earlier) := by
  have hlast : ofLastTest? lookup (.modifier invocation :: earlier) =
      ofLastTest? lookup earlier := by simp [ofLastTest?, hb]
  rw [Recalls, hlast]
  exact h

theorem verdict_else (hslot : Recalls lookup slot earlier)
    (hb : branch? invocation = some .otherwise) :
    Modifier.Builtin.verdict lookup slot invocation =
      .ok (ofBranch lookup earlier .otherwise, slot) := by
  unfold Recalls at hslot
  cases hlast : ofLastTest? lookup earlier with
  | none =>
    rw [hlast, Option.map_none] at hslot
    simp [Modifier.Builtin.verdict, hb, hslot, ofBranch, hlast]
  | some last =>
    rw [hlast, Option.map_some] at hslot
    simp [Modifier.Builtin.verdict, hb, hslot, ofBranch, hlast]

theorem verdict_test {keyword expr : List Char} {condition : Condition.Expr}
    (hb : branch? invocation = some (.test keyword expr))
    (hascii : ∀ c ∈ keyword, c.isAlpha = true)
    (hparse : Condition.parse (String.ofList expr) = .ok condition) :
    Modifier.Builtin.verdict lookup slot invocation =
      .ok (ofTest lookup keyword expr,
        Json.Fields.put lastCondition (.bool (ofTest lookup keyword expr)) slot) := by
  have hholds : holds lookup expr = condition.isTrue lookup := by rw [holds, hparse]
  have hresult : (condition.isTrue lookup != isUnless keyword) = ofTest lookup keyword expr := by
    rw [isUnless_eq hascii, ofTest, hholds]
    by_cases hfold : fold keyword = "unless".toList
    · simp [hfold]
    · rw [if_neg hfold, beq_false_of_ne hfold, Bool.bne_false]
  simp only [Modifier.Builtin.verdict, hb, hparse, hresult]

/-- A run that does not fail shows the block if its verdict is true, and the slot stays right. -/
theorem handle_conditional {b : Branch} (hslot : Recalls lookup slot earlier)
    (hb : branch? invocation = some b) (hascii : AsciiKeywords (.modifier invocation :: earlier))
    (passage : Passage) (ok : ((conditional lookup).handle passage slot invocation).fault = none) :
    ∃ kept,
      (conditional lookup).handle passage slot invocation =
        .ok (if ofBranch lookup earlier b then passage else .hidden) kept ∧
      Recalls lookup kept (.modifier invocation :: earlier) := by
  simp only [conditional] at ok ⊢
  cases b with
  | otherwise =>
    rw [verdict_else hslot hb]
    refine ⟨slot, rfl, ?_⟩
    simpa [Recalls, ofLastTest?, hb] using hslot
  | test keyword expr =>
    cases hparse : Condition.parse (String.ofList expr) with
    | error e => simp [Modifier.Builtin.verdict, hb, hparse] at ok
    | ok condition =>
      rw [verdict_test hb (hascii invocation keyword expr List.mem_cons_self hb) hparse]
      refine ⟨_, rfl, ?_⟩
      simp [Recalls, Json.Fields.get?_put, ofLastTest?, hb]

variable {substitute : String → String} {disabled : List String}

theorem conditional_mem_enabled (henabled : isDisabled disabled .conditional = false) :
    Name.conditional ∈ enabled disabled := by
  simp [enabled, Modifier.Builtin.mem_all, henabled]

theorem arming_conditional (lookup : Lookup) (henabled : isDisabled disabled .conditional = false)
    (h : (branch? invocation).isSome = true) :
    arming (Modifier.Builtin.registry lookup disabled) invocation =
      some (builtin lookup disabled .conditional invocation) :=
  arming_builtin_iff.mpr ⟨.conditional, conditional_mem_enabled henabled, h, rfl⟩

theorem index_ne_of_arming (henabled : isDisabled disabled .conditional = false)
    (h : branch? invocation = none) {a : Armed}
    (harm : arming (Modifier.Builtin.registry lookup disabled) invocation = some a) :
    (enabled disabled).idxOf Name.conditional ≠ a.index := by
  obtain ⟨name, -, haccepts, rfl⟩ := arming_builtin_iff.mp harm
  intro hindex
  obtain rfl := (List.idxOf_inj (conditional_mem_enabled henabled)).mp hindex
  simp [ofName, conditional, h] at haccepts

/-- The turns on a passage after a history. -/
def window (substitute : String → String) (lookup : Lookup) (disabled : List String)
    (history : List Block) (passage : Passage) : List Turn :=
  let registry := Modifier.Builtin.registry lookup disabled
  turnsOn (turns substitute registry history) passage (armed registry history)

/-- All turns of a history, and those on a passage after it. -/
def through (substitute : String → String) (lookup : Lookup) (disabled : List String)
    (history : List Block) (passage : Passage) : List Turn :=
  turns substitute (Modifier.Builtin.registry lookup disabled) history ++
    window substitute lookup disabled history passage

theorem window_modifier (invocation : String) (earlier : List Block) (passage : Passage) :
    window substitute lookup disabled (.modifier invocation :: earlier) passage =
      window substitute lookup disabled earlier passage ++
        turnsOn (through substitute lookup disabled earlier passage)
          (outcome passage (window substitute lookup disabled earlier passage))
          (arming (Modifier.Builtin.registry lookup disabled) invocation).toList :=
  turnsOn_append _ _ _ _

theorem through_modifier (invocation : String) (earlier : List Block) (passage : Passage) :
    through substitute lookup disabled (.modifier invocation :: earlier) passage =
      through substitute lookup disabled earlier passage ++
        turnsOn (through substitute lookup disabled earlier passage)
          (outcome passage (window substitute lookup disabled earlier passage))
          (arming (Modifier.Builtin.registry lookup disabled) invocation).toList := by
  rw [through, window_modifier, ← List.append_assoc]
  rfl

theorem through_text (content : String) (earlier : List Block) (passage : Passage) :
    through substitute lookup disabled (.text content :: earlier) passage =
      through substitute lookup disabled earlier (opening substitute content) := by
  simp [through, window, turns, armed, turnsOn]

/-- No handler fails up to the end of a history and of a text block after it. -/
def Flawless (substitute : String → String) (lookup : Lookup) (disabled : List String)
    (history : List Block) (passage : Passage) : Prop :=
  ∀ turn ∈ through substitute lookup disabled history passage, turn.left.fault = none

theorem Flawless.tail {passage : Passage}
    (h : Flawless substitute lookup disabled (.modifier invocation :: earlier) passage) :
    Flawless substitute lookup disabled earlier passage := by
  intro turn hmem
  refine h turn ?_
  rw [through_modifier]
  exact List.mem_append_left _ hmem

/-- One more conditional invocation, given that the slot was right before it. -/
theorem turn_conditional {passage : Passage} {b : Branch}
    (henabled : isDisabled disabled .conditional = false)
    (hascii : AsciiKeywords (.modifier invocation :: earlier)) (hb : branch? invocation = some b)
    (ok : Flawless substitute lookup disabled (.modifier invocation :: earlier) passage)
    (hslot : Recalls lookup (slotAfter (through substitute lookup disabled earlier passage)
      ((enabled disabled).idxOf .conditional)) earlier) :
    ∃ turn,
      turnsOn (through substitute lookup disabled earlier passage)
        (outcome passage (window substitute lookup disabled earlier passage))
        (arming (Modifier.Builtin.registry lookup disabled) invocation).toList = [turn] ∧
      turn.armed.index = (enabled disabled).idxOf .conditional ∧
      turn.left.passage =
        (if ofBranch lookup earlier b then
          outcome passage (window substitute lookup disabled earlier passage)
        else .hidden) ∧
      Recalls lookup turn.left.slot (.modifier invocation :: earlier) := by
  have harm := arming_conditional lookup henabled (by rw [hb]; rfl)
  let given := outcome passage (window substitute lookup disabled earlier passage)
  let turn := takeTurn (through substitute lookup disabled earlier passage) given
    (builtin lookup disabled .conditional invocation)
  have hfault : turn.left.fault = none := by
    refine ok turn ?_
    rw [through_modifier, harm]
    exact List.mem_append_right _ List.mem_cons_self
  obtain ⟨kept, hhandle, hkept⟩ := handle_conditional hslot hb hascii given hfault
  have hleft : turn.left = .ok (if ofBranch lookup earlier b then given else .hidden) kept :=
    hhandle
  refine ⟨turn, by rw [harm]; rfl, rfl, ?_, ?_⟩
  · rw [hleft]
    rfl
  · rw [hleft]
    exact hkept

/-- Whatever blocks came between, the slot holds the verdict of the last test. -/
theorem recalls_through (henabled : isDisabled disabled .conditional = false)
    {history : List Block} (hascii : AsciiKeywords history) {passage : Passage}
    (ok : Flawless substitute lookup disabled history passage) :
    Recalls lookup (slotAfter (through substitute lookup disabled history passage)
      ((enabled disabled).idxOf .conditional)) history := by
  induction history generalizing passage with
  | nil => rfl
  | cons block earlier ih =>
    cases block with
    | text content =>
      rw [Flawless, through_text] at ok
      rw [through_text]
      exact ih hascii.tail ok
    | modifier invocation =>
      have hslot := ih hascii.tail ok.tail
      rw [through_modifier]
      cases hb : branch? invocation with
      | some b =>
        obtain ⟨turn, hturns, hindex, -, hkept⟩ := turn_conditional henabled hascii hb ok hslot
        rw [hturns, slotAfter_concat, if_pos hindex.symm]
        exact hkept
      | none =>
        refine Recalls.other ?_ hb
        cases harm : arming (Modifier.Builtin.registry lookup disabled) invocation with
        | none => simpa [turnsOn] using hslot
        | some a =>
          have hother := index_ne_of_arming henabled hb harm
          rw [Option.toList_some, turnsOn, turnsOn, slotAfter_concat]
          rw [if_neg (show _ ≠ (takeTurn _ _ a).armed.index from hother)]
          exact hslot

theorem arming_eq_none (hb : branch? invocation = none)
    (honly : ∀ a ∈ armed (Modifier.Builtin.registry lookup disabled)
      (.modifier invocation :: earlier), (branch? a.invocation).isSome = true) :
    arming (Modifier.Builtin.registry lookup disabled) invocation = none := by
  cases harm : arming (Modifier.Builtin.registry lookup disabled) invocation with
  | none => rfl
  | some a =>
    obtain ⟨name, -, -, rfl⟩ := arming_builtin_iff.mp harm
    have := honly (builtin lookup disabled name invocation) (by simp [armed, harm])
    simp [builtin, hb] at this

/-- A passage that only conditionals change stays as it is, or is hidden. -/
theorem outcome_window (henabled : isDisabled disabled .conditional = false)
    {history : List Block} (hascii : AsciiKeywords history) {passage : Passage}
    (ok : Flawless substitute lookup disabled history passage)
    (honly : ∀ a ∈ armed (Modifier.Builtin.registry lookup disabled) history,
      (branch? a.invocation).isSome = true) :
    outcome passage (window substitute lookup disabled history passage) =
      if (sinceText lookup history).all id then passage else .hidden := by
  induction history with
  | nil => rfl
  | cons block earlier ih =>
    cases block with
    | text content =>
      rfl
    | modifier invocation =>
      have honly' : ∀ a ∈ armed (Modifier.Builtin.registry lookup disabled) earlier,
          (branch? a.invocation).isSome = true := by
        intro a ha
        exact honly a (List.mem_append_left _ ha)
      have hearlier := ih hascii.tail ok.tail honly'
      rw [window_modifier]
      cases hb : branch? invocation with
      | none =>
        rw [arming_eq_none hb honly, Option.toList_none, turnsOn, List.append_nil, hearlier]
        simp [sinceText, hb]
      | some b =>
        have hslot := recalls_through henabled hascii.tail ok.tail
        obtain ⟨turn, hturns, -, hleft, -⟩ := turn_conditional henabled hascii hb ok hslot
        have houtcome : ∀ earlier, outcome passage (earlier ++ [turn]) = turn.left.passage := by
          simp [outcome]
        rw [hturns, houtcome, hleft, hearlier]
        cases hall : (sinceText lookup earlier).all id <;>
          cases hverdict : ofBranch lookup earlier b <;> simp [sinceText, hb, hall, hverdict]

/-- With the built-in modifiers, a text block under conditional invocations alone is written with
its separator if all their verdicts are true, and leaves nothing otherwise. -/
theorem conditional_display (r : Renderer) (disabled : List String)
    (hregistry : r.modifiers = fun lookup => Modifier.Builtin.registry lookup disabled)
    (henabled : isDisabled disabled .conditional = false) (suppress : Bool) (document : Document)
    (store : Store) (rendering : Rendering) (hascii : AsciiKeywords document.blocks)
    (hrender : (r.render suppress document store).result = .ok rendering) :
    let lookup := (dispatchUnless suppress document.directives store).store.get?
    let substitute := fun content => r.inserts lookup (r.links content)
    let registry := Modifier.Builtin.registry lookup disabled
    let pieces := ofBlocks substitute registry [] document.blocks
    rendering.markdown = String.join pieces ∧
      ∀ before content after, document.blocks = before ++ .text content :: after →
        (∀ a ∈ armed registry before.reverse, (branch? a.invocation).isSome = true) →
        pieces[before.length]? = some
          (if (sinceText lookup before.reverse).all id then "\n\n" ++ substitute content
          else "") := by
  intro lookup substitute registry pieces
  obtain ⟨w, follows, ok, hmarkdown⟩ := follows_of_render hrender
  rw [hregistry] at follows ok
  refine ⟨hmarkdown.trans follows.markdown, ?_⟩
  intro before content after hblocks honly
  have hflawless : Flawless substitute lookup disabled before.reverse
      (opening substitute content) := by
    intro turn hmem
    refine ok turn ?_
    rw [hblocks, List.reverse_append, List.reverse_cons, List.append_assoc]
    exact mem_turns_append _ hmem
  have hascii' : AsciiKeywords before.reverse := by
    intro invocation keyword expr hmem
    refine hascii invocation keyword expr ?_
    rw [hblocks]
    exact List.mem_append_left _ (List.mem_reverse.mp hmem)
  have hshown := outcome_window henabled hascii' hflawless honly
  have hpiece : pieces[before.length]? =
      some (ofBlock substitute registry before.reverse (.text content)) := by
    simp only [pieces, hblocks]
    exact getElem?_ofBlocks substitute registry before after (.text content)
  have hwrite : ofBlock substitute registry before.reverse (.text content) =
      (outcome (opening substitute content)
        (window substitute lookup disabled before.reverse (opening substitute content))).write :=
    rfl
  rw [hpiece, hwrite, hshown]
  cases (sinceText lookup before.reverse).all id <;> simp [opening, Passage.write, Passage.hidden]

/-- Built-in modifiers alone. -/
def plain : Renderer where
  links := id
  inserts _ content := content
  modifiers lookup := Modifier.Builtin.registry lookup []
  options := .default
  rules := .plain

def choice : Document where
  directives := []
  blocks := [.modifier "if a", .text "One", .modifier "note", .text "Aside", .modifier "Else",
    .text "Two"]

/-- Neither the hidden blocks nor the note keep the test from the `else`. -/
theorem else_shown_after_note :
    let store := Store.ofFields [("a", .bool false)]
    ∃ rendering, (plain.render true choice store).result = .ok rendering ∧
      rendering.markdown = "\n\nTwo" ∧
      (ofBlocks id (Modifier.Builtin.registry store.get? []) [] choice.blocks)[5]? =
        some "\n\nTwo" := by
  intro store
  have hmarkdown : ((plain.render true choice store).result.map Rendering.markdown).toOption =
      some "\n\nTwo" := by decide +kernel
  have hkeywords : AsciiKeywords choice.blocks := by
    have hif : branch? "if a" = some (.test ['i', 'f'] ['a']) := by decide +kernel
    have hnote : branch? "note" = none := by decide +kernel
    have helse : branch? "Else" = some .otherwise := by decide +kernel
    intro invocation keyword expr hmem hb
    simp only [choice, List.mem_cons, Block.modifier.injEq, List.not_mem_nil, reduceCtorEq,
      or_false, false_or] at hmem
    rcases hmem with rfl | rfl | rfl
    · rw [hif] at hb
      cases hb
      exact List.all_eq_true.mp (by decide)
    · cases hnote.symm.trans hb
    · cases helse.symm.trans hb
  cases hresult : (plain.render true choice store).result with
  | error e => simp [hresult, Except.map, Except.toOption] at hmarkdown
  | ok rendering =>
    have hdisplay := conditional_display plain [] rfl (by decide +kernel) true choice store
      rendering hkeywords hresult
    have hpiece := hdisplay.2
      [.modifier "if a", .text "One", .modifier "note", .text "Aside", .modifier "Else"] "Two" []
      rfl (by decide +kernel)
    refine ⟨rendering, rfl, ?_, hpiece.trans (by decide +kernel)⟩
    simpa [hresult, Except.map, Except.toOption] using hmarkdown

end StoryPress.Story.Verdict
