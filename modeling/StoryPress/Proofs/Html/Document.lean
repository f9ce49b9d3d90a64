import StoryPress.Proofs.Html.Pending
import StoryPress.Proofs.Text.Blank

/-! The writer of events gives the HTML of the document tree. Every element writes its own HTML
whatever was written before, and leaves no code block and no image open. What it leaves of a table
does not matter: a table sets its alignments, and a row starts counting cells anew. -/
namespace StoryPress.Html

open StoryPress.Markdown (Block ColumnAlignment Event Inline Tag)
open StoryPress.Markdown.Block (descriptionsOf descriptionsOfItems)
open StoryPress.Markdown.Inline (arePlain descriptionsIn isContained)

/-- All of some descriptions are contained. -/
def AllContained (descriptions : List (List Inline)) : Prop :=
  ∀ content ∈ descriptions, isContained content = true

theorem allContained_append {xs ys : List (List Inline)} :
    AllContained (xs ++ ys) ↔ AllContained xs ∧ AllContained ys :=
  List.forall_mem_append

namespace Writer

variable {rules : Rules} {lineBreaks : Bool}

def changeTable (w : Writer) (change : TableState → TableState) : Writer :=
  { w with table := change w.table }

/-- Events that write some HTML wherever they start, and change the table in some way. -/
def Writes (rules : Rules) (lineBreaks : Bool) (change : TableState → TableState)
    (events : List Event) (html : String) : Prop :=
  ∀ w : Writer, w.Idle → run rules lineBreaks events w = (w.put html).changeTable change

theorem step_enter {w : Writer} (h : w.Idle) (tag : Tag) :
    step rules lineBreaks w (.enter tag) = w.enter rules tag := by
  simp [step, h.image]

theorem step_leave {w : Writer} (h : w.Idle) (tag : Tag) :
    step rules lineBreaks w (.leave tag) = w.leave rules tag := by
  simp [step, h.image]

namespace Writes

variable {change next : TableState → TableState} {xs ys : List Event} {s t : String}

theorem nil : Writes rules lineBreaks id [] "" := fun _ _ => by simp [changeTable]

theorem single {e : Event} (h : ∀ w : Writer, w.Idle → step rules lineBreaks w e = w.put s) :
    Writes rules lineBreaks id [e] s := h

theorem append (hx : Writes rules lineBreaks change xs s)
    (hy : Writes rules lineBreaks next ys t) :
    Writes rules lineBreaks (next ∘ change) (xs ++ ys) (s ++ t) := by
  intro w h
  have hmiddle : ((w.put s).changeTable change).Idle := ⟨h.code, h.image⟩
  rw [run_append, hx w h, hy _ hmiddle, ← put_put]
  rfl

/-- An element whose tags are written around its content. -/
theorem around (h : Writes rules lineBreaks change xs s) {tag : Tag} {before after : String}
    (henter : ∀ w : Writer, w.enter rules tag = w.put before)
    (hleave : ∀ w : Writer, w.leave rules tag = w.put after) :
    Writes rules lineBreaks change (Event.around tag xs) (before ++ s ++ after) := by
  intro w hidle
  have hstart : (w.put before).Idle := hidle.put before
  have hend : (((w.put before).put s).changeTable change).Idle := ⟨hidle.code, hidle.image⟩
  rw [run_around, step_enter hidle, henter, h _ hstart, step_leave hend, hleave, ← put_put,
      ← put_put]
  rfl

end Writes

mutual

theorem writes_ofInline : (i : Inline) → AllContained i.descriptions →
    Writes rules lineBreaks id (Event.ofInline i) (ofInline rules lineBreaks i)
  | .text s, _ => .single fun w h => by simp [step, putOr, h.code, h.image, ofInline]
  | .code s, _ => .single fun w h => by simp [step, putOr, h.image, ofInline]
  | .rawHtml s, _ => .single fun w h => by simp [step, ofInline]
  | .softBreak, _ => .single fun w h => by simp [step, putOr, h.image, ofInline, softBreak]
  | .hardBreak, _ => .single fun w h => by simp [step, ofInline]
  | .taskMarker checked, _ => .single fun w h => by simp [step, ofInline]
  | .styled style content, hc => by
    rw [Event.ofInline, ofInline]
    exact (writes_ofInlines content hc).around (fun _ => rfl) (fun _ => rfl)
  | .link url title content, hc => by
    rw [Event.ofInline, ofInline]
    exact (writes_ofInlines content hc).around (fun _ => rfl) (fun _ => rfl)
  | .image source title content, hc => fun w h =>
    run_image h (hc content List.mem_cons_self) source title

theorem writes_ofInlines : (content : List Inline) → AllContained (descriptionsIn content) →
    Writes rules lineBreaks id (Event.ofInlines content) (ofInlines rules lineBreaks content)
  | [], _ => .nil
  | i :: rest, hc => by
    obtain ⟨hi, hrest⟩ := allContained_append.mp hc
    rw [Event.ofInlines, ofInlines]
    exact (writes_ofInline i hi).append (writes_ofInlines rest hrest)

end

def cellElement (inHead : Bool) : String := if inHead then "th" else "td"

/-- The writer in a row, with the cells before counted. -/
def atCell (w : Writer) (alignments : List ColumnAlignment) (inHead : Bool) (cell : Nat) : Writer :=
  { w with table := ⟨alignments, inHead, cell⟩ }

theorem Idle.atCell {w : Writer} (h : w.Idle) (alignments : List ColumnAlignment) (inHead : Bool)
    (cell : Nat) : (w.atCell alignments inHead cell).Idle := ⟨h.code, h.image⟩

theorem enter_cell (w : Writer) (alignments : List ColumnAlignment) (inHead : Bool) (cell : Nat) :
    (w.atCell alignments inHead cell).enter rules .tableCell =
      (w.put ("<" ++ cellElement inHead ++ alignmentStyle (alignments.getD cell .none) ++
        ">")).atCell alignments inHead cell := by
  cases inHead <;> rfl

theorem leave_cell (w : Writer) (alignments : List ColumnAlignment) (inHead : Bool) (cell : Nat) :
    (w.atCell alignments inHead cell).leave rules .tableCell =
      (w.put ("</" ++ cellElement inHead ++ ">")).atCell alignments inHead (cell + 1) := by
  cases inHead <;> rfl

/-- The content of a cell does not touch the count. -/
theorem run_atCell {w : Writer} (h : w.Idle) (alignments : List ColumnAlignment) (inHead : Bool)
    (cell : Nat) {content : List Inline} (hc : AllContained (descriptionsIn content)) :
    run rules lineBreaks (Event.ofInlines content) (w.atCell alignments inHead cell) =
      (w.put (ofInlines rules lineBreaks content)).atCell alignments inHead cell :=
  writes_ofInlines content hc _ (h.atCell alignments inHead cell)

theorem run_cells {w : Writer} (h : w.Idle) (alignments : List ColumnAlignment) (inHead : Bool)
    (counted : Nat) {cells : List (List Inline)}
    (hc : AllContained (cells.flatMap descriptionsIn)) :
    run rules lineBreaks (Event.ofCells cells) (w.atCell alignments inHead counted) =
      (w.put (ofCells rules lineBreaks (cellElement inHead) (alignments.drop counted) cells)).atCell
        alignments inHead (counted + cells.length) := by
  induction cells generalizing w counted with
  | nil => simp [Event.ofCells, ofCells]
  | cons cell rest ih =>
    obtain ⟨hcell, hrest⟩ := allContained_append.mp hc
    have hsplit : Event.ofCells (cell :: rest) =
        Event.around .tableCell (Event.ofInlines cell) ++ Event.ofCells rest := rfl
    rw [hsplit, run_append, run_around, step_enter (h.atCell _ _ _), enter_cell,
      run_atCell (h.put _) _ _ _ hcell, step_leave (((h.put _).put _).atCell _ _ _), leave_cell,
      ih (((h.put _).put _).put _) _ hrest, ofCells, List.head?_drop, List.tail_drop]
    simp only [put_put, String.append_assoc, List.getD_eq_getElem?_getD, List.length_cons]
    rw [Nat.add_assoc, Nat.add_comm 1]

theorem run_head {w : Writer} (h : w.Idle) (alignments : List ColumnAlignment)
    {head : List (List Inline)} (hc : AllContained (head.flatMap descriptionsIn)) :
    run rules lineBreaks (Event.around .tableHead (Event.ofCells head))
        (w.atCell alignments false 0) =
      (((w.put "<thead><tr>").put (ofCells rules lineBreaks "th" alignments head)).put
        "</tr></thead><tbody>").atCell alignments false head.length := by
  have hstart : step rules lineBreaks (w.atCell alignments false 0) (.enter .tableHead) =
      (w.put "<thead><tr>").atCell alignments true 0 := step_enter (h.atCell _ _ _) _
  rw [run_around, hstart, run_cells (h.put _) _ _ _ hc,
    step_leave (((h.put _).put _).atCell _ _ _), List.drop_zero, Nat.zero_add]
  rfl

theorem run_row {w : Writer} (h : w.Idle) (alignments : List ColumnAlignment) (counted : Nat)
    {row : List (List Inline)} (hc : AllContained (row.flatMap descriptionsIn)) :
    run rules lineBreaks (Event.around .tableRow (Event.ofCells row))
        (w.atCell alignments false counted) =
      (w.put (ofRow rules lineBreaks alignments row)).atCell alignments false row.length := by
  have hstart : step rules lineBreaks (w.atCell alignments false counted) (.enter .tableRow) =
      (w.put "<tr>").atCell alignments false 0 := step_enter (h.atCell _ _ _) _
  rw [run_around, hstart, run_cells (h.put _) _ _ _ hc,
    step_leave (((h.put _).put _).atCell _ _ _), List.drop_zero, Nat.zero_add, ofRow, ← put_put,
    ← put_put]
  rfl

theorem run_rows (alignments : List ColumnAlignment) (counted : Nat)
    {rows : List (List (List Inline))}
    (hc : AllContained (rows.flatMap (·.flatMap descriptionsIn))) :
    ∃ cell, ∀ w : Writer, w.Idle →
      run rules lineBreaks (rows.flatMap fun row => Event.around .tableRow (Event.ofCells row))
          (w.atCell alignments false counted) =
        (w.put (String.join (rows.map (ofRow rules lineBreaks alignments)))).atCell
          alignments false cell := by
  induction rows generalizing counted with
  | nil => exact ⟨counted, fun w _ => by simp⟩
  | cons row rest ih =>
    obtain ⟨hrow, hrest⟩ := allContained_append.mp hc
    obtain ⟨cell, hcell⟩ := ih row.length hrest
    refine ⟨cell, fun w h => ?_⟩
    rw [List.flatMap_cons, run_append, run_row h _ _ hrow, hcell _ (h.put _), put_put]
    simp

theorem writes_table (alignments : List ColumnAlignment) {head : List (List Inline)}
    {rows : List (List (List Inline))} (hhead : AllContained (head.flatMap descriptionsIn))
    (hrows : AllContained (rows.flatMap (·.flatMap descriptionsIn))) :
    ∃ change, Writes rules lineBreaks change (Event.ofBlock (.table alignments head rows))
      (ofBlock rules lineBreaks (.table alignments head rows)) := by
  obtain ⟨cell, hcell⟩ := run_rows alignments head.length hrows
  refine ⟨fun _ => ⟨alignments, false, cell⟩, fun w h => ?_⟩
  have hstart : step rules lineBreaks w (.enter (.table alignments)) =
      (w.put "<table>").atCell alignments false 0 := step_enter h _
  have hinner := (((h.put "<table>").put "<thead><tr>").put
    (ofCells rules lineBreaks "th" alignments head)).put "</tr></thead><tbody>"
  have hhtml : ofBlock rules lineBreaks (.table alignments head rows) =
      "<table>" ++ "<thead><tr>" ++ ofCells rules lineBreaks "th" alignments head ++
        "</tr></thead><tbody>" ++ String.join (rows.map (ofRow rules lineBreaks alignments)) ++
        "</tbody></table>" := rfl
  rw [Event.ofBlock, run_around, hstart, run_append, run_head (h.put _) _ hhead, hcell _ hinner,
    step_leave ((hinner.put _).atCell _ _ _), hhtml]
  simp only [← put_put]
  rfl

theorem writes_raw (chunks : List String) :
    Writes rules lineBreaks id (chunks.map .rawHtml) (String.join chunks) := by
  induction chunks with
  | nil => exact .nil
  | cons chunk rest ih =>
    rw [String.join_cons]
    exact (Writes.single fun w _ => rfl).append ih

/-- The chunks of a code block are gathered until its end. -/
theorem run_code (language : Option String) (chunks : List String) (w : Writer) (content : String) :
    run rules lineBreaks (chunks.map .text) { w with code := some (language, content) } =
      { w with code := some (language, content ++ String.join chunks) } := by
  induction chunks generalizing content with
  | nil => simp
  | cons chunk rest ih =>
    have hstep : step rules lineBreaks { w with code := some (language, content) } (.text chunk) =
        { w with code := some (language, content ++ chunk) } := rfl
    rw [List.map_cons, run_cons, hstep, ih, String.join_cons, String.append_assoc]

theorem writes_code (info : Option String) (chunks : List String) :
    Writes rules lineBreaks id (Event.ofBlock (.code info chunks))
      (ofBlock rules lineBreaks (.code info chunks)) := by
  intro w h
  have hstart : step rules lineBreaks w (.enter (.code info)) =
      { w with code := some (language? info, "") } := step_enter h _
  have hend : step rules lineBreaks { w with code := some (language? info, String.join chunks) }
        (.leave (.code info)) = w.put (rules.codeBlock (language? info) (String.join chunks)) := by
    simp [step, h.image, leave, put, h.code]
  rw [Event.ofBlock, run_around, hstart, run_code, String.empty_append, hend]
  rfl

theorem writes_heading (level : Nat) {content : List Inline}
    (hc : AllContained (descriptionsIn content)) :
    Writes rules lineBreaks id (Event.ofBlock (.heading level content))
      (ofBlock rules lineBreaks (.heading level content)) := by
  have hclosing : ∀ before : String, before ++ "</" ++ headingTag level ++ ">" =
      before ++ ("</" ++ headingTag level ++ ">") := by
    simp only [String.append_assoc, implies_true]
  have hhtml : ofBlock rules lineBreaks (.heading level content) =
      "<" ++ headingTag level ++ ">" ++ ofInlines rules lineBreaks content ++
        ("</" ++ headingTag level ++ ">") := hclosing _
  rw [Event.ofBlock, hhtml]
  exact (writes_ofInlines content hc).around (fun _ => rfl) fun _ => rfl

theorem writes_list {start : Option Nat} {change : TableState → TableState} {events : List Event}
    {html : String} (h : Writes rules lineBreaks change events html) :
    Writes rules lineBreaks change (Event.around (.list start) events)
      (listStart start ++ html ++ listEnd start) := by
  refine h.around (fun w => ?_) fun w => ?_
  · rcases start with _ | _ | _ | n <;> rfl
  · cases start <;> rfl

mutual

theorem writes_ofBlock : (b : Block) → AllContained b.descriptions →
    ∃ change, Writes rules lineBreaks change (Event.ofBlock b) (ofBlock rules lineBreaks b)
  | .paragraph content, hc =>
    ⟨_, (writes_ofInlines content hc).around (fun _ => rfl) fun _ => rfl⟩
  | .plain content, hc => ⟨_, writes_ofInlines content hc⟩
  | .heading level content, hc => ⟨_, writes_heading level hc⟩
  | .quote content, hc => by
    obtain ⟨_, h⟩ := writes_ofBlocks content hc
    exact ⟨_, h.around (fun _ => rfl) fun _ => rfl⟩
  | .code info chunks, _ => ⟨_, writes_code info chunks⟩
  | .list start items, hc => by
    obtain ⟨_, h⟩ := writes_ofItems items hc
    exact ⟨_, writes_list h⟩
  | .table alignments head rows, hc =>
    let ⟨hhead, hrows⟩ := allContained_append.mp hc
    writes_table alignments hhead hrows
  | .rule, _ => ⟨_, .single fun _ _ => rfl⟩
  | .rawHtml chunks, _ => ⟨_, writes_raw chunks⟩

theorem writes_ofBlocks : (blocks : List Block) → AllContained (descriptionsOf blocks) →
    ∃ change, Writes rules lineBreaks change (Event.ofBlocks blocks)
      (ofBlocks rules lineBreaks blocks)
  | [], _ => ⟨_, .nil⟩
  | b :: rest, hc => by
    obtain ⟨hb, hrest⟩ := allContained_append.mp hc
    obtain ⟨_, hfirst⟩ := writes_ofBlock b hb
    obtain ⟨_, hlater⟩ := writes_ofBlocks rest hrest
    exact ⟨_, hfirst.append hlater⟩

theorem writes_ofItems : (items : List (List Block)) → AllContained (descriptionsOfItems items) →
    ∃ change, Writes rules lineBreaks change (Event.ofItems items)
      (ofItems rules lineBreaks items)
  | [], _ => ⟨_, .nil⟩
  | item :: rest, hc => by
    obtain ⟨hitem, hrest⟩ := allContained_append.mp hc
    obtain ⟨_, hfirst⟩ := writes_ofBlocks item hitem
    obtain ⟨_, hlater⟩ := writes_ofItems rest hrest
    exact ⟨_, (hfirst.around (fun _ => rfl) fun _ => rfl).append hlater⟩

end

end Writer

/-- The j-th cell of a row has the alignment of the j-th column. -/
theorem ofCells_eq_join (rules : Rules) (lineBreaks : Bool) (element : String)
    (alignments : List ColumnAlignment) (cells : List (List Inline)) :
    ofCells rules lineBreaks element alignments cells =
      String.join (cells.mapIdx fun j cell =>
        "<" ++ element ++ Writer.alignmentStyle (alignments.getD j .none) ++ ">" ++
          ofInlines rules lineBreaks cell ++ "</" ++ element ++ ">") := by
  induction cells generalizing alignments with
  | nil => rfl
  | cons cell rest ih =>
    have hhead : alignments.getD 0 .none = alignments.head?.getD .none := by
      rw [List.getD_eq_getElem?_getD, List.head?_eq_getElem?]
    have htail : ∀ j, alignments.getD (j + 1) .none = alignments.tail.getD j .none := by
      intro j
      rw [List.getD_eq_getElem?_getD, List.getD_eq_getElem?_getD, List.getElem?_tail]
    rw [List.mapIdx_cons, String.join_cons, ofCells, ih, hhead]
    simp only [htail]

/-- A word that only blanks stand before, up to the next blank or the end. -/
def IsFirstWord (word text : String) : Prop :=
  ∃ lead rest, text.toList = lead ++ word.toList ++ rest ∧ Text.AllBlank lead ∧ word ≠ "" ∧
    (∀ c ∈ word.toList, Text.isBlank c = false) ∧ ∀ c ∈ rest.head?, Text.isBlank c = true

theorem language?_some {text word : String} :
    Writer.language? (some text) = some word ↔
      (text.toList.dropWhile Text.isBlank).takeWhile (!Text.isBlank ·) = word.toList ∧
        word ≠ "" := by
  rw [Writer.language?, Option.bind_some]
  cases (text.toList.dropWhile Text.isBlank).takeWhile (!Text.isBlank ·) with
  | nil =>
    refine iff_of_false nofun ?_
    rintro ⟨hempty, hne⟩
    exact hne (String.toList_inj.mp hempty.symm)
  | cons c cs =>
    rw [Option.some.injEq]
    constructor
    · rintro rfl
      exact ⟨String.toList_ofList.symm, fun hempty => by simp at hempty⟩
    · rintro ⟨hword, -⟩
      rw [hword, String.ofList_toList]

theorem language?_eq_some_iff {info : Option String} {word : String} :
    Writer.language? info = some word ↔ ∃ text, info = some text ∧ IsFirstWord word text := by
  cases info with
  | none => simp [Writer.language?]
  | some text =>
    rw [language?_some]
    simp only [Option.some.injEq, exists_eq_left']
    constructor
    · rintro ⟨hword, hne⟩
      refine ⟨text.toList.takeWhile Text.isBlank,
        (text.toList.dropWhile Text.isBlank).dropWhile (!Text.isBlank ·), ?_, ?_, hne, ?_, ?_⟩
      · rw [← hword, List.append_assoc, List.takeWhile_append_dropWhile,
          List.takeWhile_append_dropWhile]
      · exact Text.allBlank_takeWhile text.toList
      · intro c hc
        rw [← hword] at hc
        simpa using List.mem_takeWhile_imp hc
      · intro c hc
        have hnot := List.head?_dropWhile_not (!Text.isBlank ·) (text.toList.dropWhile Text.isBlank)
        rw [hc] at hnot
        simpa using hnot
    · rintro ⟨lead, rest, htext, hlead, hne, hword, hrest⟩
      refine ⟨?_, hne⟩
      have hstart : ∀ c ∈ (word.toList ++ rest).head?, Text.isBlank c = false := by
        intro c hc
        rw [List.head?_append_of_ne_nil _ (by simpa using hne)] at hc
        exact hword c (List.mem_of_mem_head? hc)
      have hend : rest.takeWhile (!Text.isBlank ·) = [] := by
        cases rest with
        | nil => rfl
        | cons c rest => simp [hrest c rfl]
      rw [htext, List.append_assoc, Text.dropWhile_blanks hlead hstart,
        List.takeWhile_append_of_pos (by simpa using hword), hend, List.append_nil]

/-- The events of a document are written as the HTML of its tree, in which the cells of a row have
the alignments of their columns and the language of a code block is the first word of its info. -/
theorem ofEvents_ofBlocks (rules : Rules) (lineBreaks : Bool) (blocks : List Block)
    (h : ∀ content ∈ descriptionsOf blocks, arePlain content = true) :
    ofEvents rules lineBreaks (Event.ofBlocks blocks) = ofBlocks rules lineBreaks blocks ∧
      (∀ element alignments cells,
        ofCells rules lineBreaks element alignments cells =
          String.join (cells.mapIdx fun j cell =>
            "<" ++ element ++ Writer.alignmentStyle (alignments.getD j .none) ++ ">" ++
              ofInlines rules lineBreaks cell ++ "</" ++ element ++ ">")) ∧
      ∀ info word, Writer.language? info = some word ↔
        ∃ text, info = some text ∧ IsFirstWord word text := by
  refine ⟨?_, ofCells_eq_join rules lineBreaks, fun _ _ => language?_eq_some_iff⟩
  have hcontained : AllContained (descriptionsOf blocks) :=
    fun content hmem => Inline.isContained_of_arePlain (h content hmem)
  obtain ⟨change, hwrites⟩ : ∃ change, Writer.Writes rules lineBreaks change
      (Event.ofBlocks blocks) (ofBlocks rules lineBreaks blocks) :=
    Writer.writes_ofBlocks blocks hcontained
  rw [ofEvents, hwrites _ ⟨rfl, rfl⟩]
  exact String.empty_append

/-- A table with an image in a cell, and a code block in two chunks. -/
theorem price_list_written :
    let picture : Inline := .image "axe.png" "" [.text "an ", .styled .emphasis [.text "axe"]]
    let blocks : List Block :=
      [.table [.left, .right] [[.text "Item"], [.text "Price"]] [[[picture], [.code "3"]]],
        .code (some " rust ignore") ["1 <", " 2"]]
    (∀ content ∈ descriptionsOf blocks, arePlain content = true) ∧
      ofEvents .story true (Event.ofBlocks blocks) =
        "<table><thead><tr><th style=\"text-align: left\">Item</th>" ++
          "<th style=\"text-align: right\">Price</th></tr></thead><tbody>" ++
          "<tr><td style=\"text-align: left\">" ++
          "<img src=\"axe.png\" alt=\"an axe\" loading=\"lazy\"></td>" ++
          "<td style=\"text-align: right\"><code>3</code></td></tr></tbody></table>" ++
          "<pre><code class=\"language-rust\">1 &lt; 2</code></pre>" := by
  intro picture blocks
  have hplain : ∀ content ∈ descriptionsOf blocks, arePlain content = true := by decide
  refine ⟨hplain, ?_⟩
  rw [(ofEvents_ofBlocks .story true blocks hplain).1]
  decide +kernel

end StoryPress.Html
