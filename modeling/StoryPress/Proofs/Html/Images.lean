import StoryPress.Proofs.Html.Document

/-! An image is one item, written by one call with all of its description as alternative text,
exactly if its description is contained. To tell the others apart, a format is enough whose every
rule writes a mark: they write more than the one mark of the image. -/
namespace StoryPress.Html

open StoryPress.Markdown (Block Event Inline Tag)
open StoryPress.Markdown.Inline (arePlain isContained isEmpty isPlain mayEnd)

/-- Rules that write the same mark for everything. -/
def Rules.marks : Rules where
  styleStart _ := "x"
  styleEnd _ := "x"
  codeSpan _ := "x"
  linkStart _ _ := "x"
  linkEnd := "x"
  image _ _ _ := "x"
  codeBlock _ _ := "x"
  quoteStart := "x"
  quoteEnd := "x"
  hardBreak := "x"
  rule := "x"
  taskMarker _ := "x"

namespace Writer

def size (w : Writer) : Nat := w.out.length

@[simp] theorem size_put (w : Writer) (s : String) : (w.put s).size = w.size + s.length := by
  simp [size, put]

/-- One for a test that fails. -/
def miss (test : Bool) : Nat := (!test).toNat

theorem miss_and_le (a b : Bool) : miss (a && b) ≤ miss a + miss b := by
  cases a <;> cases b <;> decide

theorem miss_or_le_left (a b : Bool) : miss (a || b) ≤ miss a := by
  cases a <;> cases b <;> decide

theorem miss_or_le_right (a b : Bool) : miss (a || b) ≤ miss b := by
  cases a <;> cases b <;> decide

theorem miss_le_one (a : Bool) : miss a ≤ 1 := Bool.toNat_le _

theorem miss_isContained_le (content : List Inline) :
    miss (isContained content) ≤ miss (arePlain content) := by
  cases h : arePlain content with
  | false => exact miss_le_one _
  | true => rw [Inline.isContained_of_arePlain h]

theorem miss_empty_le (s : String) : miss (s = "") ≤ s.length := by
  by_cases h : s = ""
  · simp [miss, h]
  · have hpos : 0 < s.length := Nat.pos_of_ne_zero fun h0 => h (String.length_eq_zero_iff.mp h0)
    exact (miss_le_one _).trans hpos

theorem length_le_escapeChars (cs : List Char) : cs.length ≤ (Text.escapeChars cs).length := by
  induction cs with
  | nil => rfl
  | cons c cs ih =>
    have hone : 1 ≤ (Text.escapeChar c).length := by
      unfold Text.escapeChar
      split <;> simp
    have hsplit : Text.escapeChars (c :: cs) = Text.escapeChar c ++ Text.escapeChars cs := rfl
    rw [hsplit, List.length_append, List.length_cons]
    omega

theorem miss_empty_le_escape (s : String) : miss (s = "") ≤ (Text.escape s).length := by
  refine (miss_empty_le s).trans ?_
  rw [Text.escape, String.length_ofList, ← String.length_toList]
  exact length_le_escapeChars s.toList

/-- A writer with no image open that has written so much more. -/
structure Wrote (before more : Nat) (w : Writer) : Prop where
  idle : w.Idle
  size : before + more ≤ w.size

theorem Wrote.put {w : Writer} (h : w.Idle) {s : String} {more : Nat} (hs : more ≤ s.length) :
    Wrote w.size more (w.put s) := ⟨h.put s, by rw [size_put]; omega⟩

theorem Wrote.trans {before first second more : Nat} {w next : Writer}
    (h : Wrote before first w) (hnext : Wrote w.size second next) (hle : more ≤ first + second) :
    Wrote before more next := ⟨hnext.idle, by have := h.size; have := hnext.size; omega⟩

/-- A writer that was inside an image: it still is and has written so much more, or an image has
ended. -/
inductive Inside (before still ended : Nat) : Writer → Prop
  | still {w : Writer} (image : PendingImage) (h : Wrote before still w) :
      Inside before still ended (w.collect image)
  | ended {w : Writer} (h : Wrote before ended w) : Inside before still ended w

theorem mark_length : "x".length = 1 := by decide

/-- An image that is still open is written at its end. -/
theorem Inside.leave_image {before : Nat} {w : Writer} {content : List Inline}
    (h : Inside before (miss (arePlain content)) (1 + miss (isContained content)) w)
    (source title : String) :
    Wrote before (1 + miss (isContained content))
      (step .marks true w (.leave (.image source title))) := by
  have hmiss := miss_isContained_le content
  cases h with
  | still image h =>
    rw [step_image_end h.idle]
    exact h.trans (.put h.idle mark_length.ge) (by omega)
  | ended h =>
    rw [step_image_end_idle h.idle]
    exact h

/-- The end of a style or a link inside an image is left out, but not once the image has ended. -/
theorem Inside.leave_other {before still ended less : Nat} {w : Writer}
    (h : Inside before still ended w) (hless : less ≤ ended + 1) {tag : Tag}
    (htag : isImageEnd (.leave tag) = false)
    (hleave : ∀ w : Writer, w.leave .marks tag = w.put "x") :
    Inside before still less (step .marks true w (.leave tag)) := by
  cases h with
  | still image h =>
    have hspilled : spilled .marks (.leave tag) = "" := rfl
    rw [step_collect h.idle image htag, hspilled, put_empty]
    exact .still _ h
  | ended h =>
    rw [step_leave h.idle, hleave]
    exact .ended (h.trans (.put h.idle mark_length.ge) hless)

theorem Inside.single {w : Writer} (h : w.Idle) (image : PendingImage) {e : Event} {still : Nat}
    (ended : Nat) (he : isImageEnd e = false) (hstill : still ≤ (spilled .marks e).length) :
    Inside w.size still ended (run .marks true [e] (w.collect image)) := by
  rw [run_cons, run_nil, step_collect h image he]
  exact .still _ (.put h hstill)

theorem wrote_around {w : Writer} (h : w.Idle) {tag : Tag} {content : List Event} {more : Nat}
    (henter : ∀ w : Writer, w.enter .marks tag = w.put "x")
    (hleave : ∀ w : Writer, w.leave .marks tag = w.put "x")
    (hcontent : ∀ {v : Writer}, v.Idle → Wrote v.size more (run .marks true content v)) :
    Wrote w.size 1 (run .marks true (Event.around tag content) w) := by
  have hstart : Wrote w.size 1 (w.put "x") := .put h mark_length.ge
  have hinner := hcontent hstart.idle
  rw [run_around, step_enter h, henter, step_leave hinner.idle, hleave]
  have hend := hinner.trans (.put hinner.idle mark_length.ge) (Nat.zero_le _)
  exact hstart.trans hend (Nat.le_refl 1)

mutual

theorem wrote_ofInline : (i : Inline) → ∀ {w : Writer}, w.Idle →
    Wrote w.size (miss i.isEmpty) (run .marks true (Event.ofInline i) w)
  | .text s, w, h => by
    have hput : run .marks true (Event.ofInline (.text s)) w = w.put (Text.escape s) := by
      simp [Event.ofInline, run, step, putOr, h.code, h.image]
    rw [hput]
    exact .put h (miss_empty_le_escape s)
  | .code s, w, h => by
    have hput : run .marks true (Event.ofInline (.code s)) w = w.put "x" := by
      simp [Event.ofInline, run, step, putOr, h.image, Rules.marks]
    rw [hput]
    exact .put h mark_length.ge
  | .softBreak, w, h => by
    have hput : run .marks true (Event.ofInline .softBreak) w = w.put "x" := by
      simp [Event.ofInline, run, step, putOr, h.image, Rules.marks]
    rw [hput]
    exact .put h mark_length.ge
  | .rawHtml s, _, h => .put h (miss_empty_le s)
  | .hardBreak, _, h => .put h mark_length.ge
  | .taskMarker _, _, h => .put h mark_length.ge
  | .styled _ content, _, h =>
    wrote_around h (fun _ => rfl) (fun _ => rfl) (wrote_ofInlines content)
  | .link _ _ content, _, h =>
    wrote_around h (fun _ => rfl) (fun _ => rfl) (wrote_ofInlines content)
  | .image source title content, w, h => by
    have hend := (inside_ofInlines content h ⟨source, title, ""⟩).leave_image source title
    rw [Event.ofInline, run_around, step_enter_image h]
    exact ⟨hend.idle, (Nat.add_le_add_left (Nat.le_add_right 1 _) _).trans hend.size⟩

theorem wrote_ofInlines : (content : List Inline) → ∀ {w : Writer}, w.Idle →
    Wrote w.size (miss (content.all isEmpty)) (run .marks true (Event.ofInlines content) w)
  | [], w, h => ⟨h, Nat.le_refl _⟩
  | i :: rest, w, h => by
    have hfirst := wrote_ofInline i h
    rw [Event.ofInlines, run_append, List.all_cons]
    exact hfirst.trans (wrote_ofInlines rest hfirst.idle) (miss_and_le _ _)

theorem inside_ofInline : (i : Inline) → ∀ {w : Writer}, w.Idle → ∀ image : PendingImage,
    Inside w.size (miss (isPlain i)) (1 + miss (mayEnd i))
      (run .marks true (Event.ofInline i) (w.collect image))
  | .text s, w, h, image => .single h image _ rfl (Nat.zero_le _)
  | .code s, w, h, image => .single h image _ rfl (Nat.zero_le _)
  | .softBreak, w, h, image => .single h image _ rfl (Nat.zero_le _)
  | .rawHtml s, w, h, image => .single h image _ rfl (miss_empty_le s)
  | .hardBreak, w, h, image => .single h image _ rfl mark_length.ge
  | .taskMarker _, w, h, image => .single h image _ rfl mark_length.ge
  | .styled style content, w, h, image => by
    rw [Event.ofInline, run_around]
    exact (inside_ofInlines content h image).leave_other (Nat.succ_le_succ (Nat.le_add_right 1 _))
      rfl fun _ => rfl
  | .link url title content, w, h, image => by
    rw [Event.ofInline, run_around]
    exact (inside_ofInlines content h image).leave_other (Nat.succ_le_succ (Nat.le_add_right 1 _))
      rfl fun _ => rfl
  | .image source title content, w, h, image => by
    rw [Event.ofInline, run_around]
    exact .ended ((inside_ofInlines content h image).leave_image source title)

theorem inside_ofInlines : (content : List Inline) → ∀ {w : Writer}, w.Idle →
    ∀ image : PendingImage,
    Inside w.size (miss (arePlain content)) (1 + miss (isContained content))
      (run .marks true (Event.ofInlines content) (w.collect image))
  | [], w, h, image => .still image ⟨h, Nat.le_refl _⟩
  | i :: rest, w, h, image => by
    have hplain := miss_and_le (isPlain i) (arePlain rest)
    have hcontained :=
      miss_or_le_left (isPlain i && isContained rest) (mayEnd i && rest.all isEmpty)
    have hends := miss_or_le_right (isPlain i && isContained rest) (mayEnd i && rest.all isEmpty)
    have hfirst := inside_ofInline i h image
    rw [Event.ofInlines, run_append, arePlain, isContained]
    generalize run .marks true (Event.ofInline i) (w.collect image) = middle at hfirst ⊢
    cases hfirst with
    | still image hfirst =>
      have hrest := inside_ofInlines rest hfirst.idle image
      have hboth := miss_and_le (isPlain i) (isContained rest)
      generalize run .marks true (Event.ofInlines rest) _ = last at hrest ⊢
      cases hrest with
      | still image hrest => exact .still image (hfirst.trans hrest hplain)
      | ended hrest => exact .ended (hfirst.trans hrest (by omega))
    | ended hfirst =>
      have hboth := miss_and_le (mayEnd i) (rest.all isEmpty)
      exact .ended (hfirst.trans (wrote_ofInlines rest hfirst.idle) (by omega))

end

/-- With marks, an image writes one mark, and more if its description is not contained. -/
theorem wrote_image {w : Writer} (h : w.Idle) (source title : String) (content : List Inline) :
    Wrote w.size (1 + miss (isContained content))
      (run .marks true (Event.ofInline (.image source title content)) w) := by
  rw [Event.ofInline, run_around, step_enter_image h]
  exact (inside_ofInlines content h ⟨source, title, ""⟩).leave_image source title

end Writer

/-- The first end of any image ends an open image: what was spilled before is written ahead of it,
and what was spoken is its alternative text. So it is a single item, with all of its description as
the alternative text, exactly if the description is contained. -/
theorem image_single_item_iff (content : List Inline) :
    (∀ (rules : Rules) (lineBreaks : Bool) (source title innerSource innerTitle : String)
      (events later : List Event) (w : Writer), w.Idle → (∀ e ∈ events, isImageEnd e = false) →
      Writer.run rules lineBreaks
          (.enter (.image source title) ::
            (events ++ .leave (.image innerSource innerTitle) :: later)) w =
        Writer.run rules lineBreaks later
          (w.put (String.join (events.map (spilled rules)) ++
            rules.image source (String.join (events.map spoken)) title))) ∧
    ((∀ (rules : Rules) (lineBreaks : Bool) (source title : String) (later : List Event)
      (w : Writer), w.Idle →
      Writer.run rules lineBreaks (Event.ofInline (.image source title content) ++ later) w =
        Writer.run rules lineBreaks later (w.put (rules.image source (altTexts content) title))) ↔
      isContained content = true) := by
  refine ⟨fun _ _ _ _ _ _ _ _ _ h hopen => Writer.run_image_events h hopen _ _ _ _ _, ?_⟩
  constructor
  · intro hsingle
    have hidle : Writer.start.Idle := ⟨rfl, rfl⟩
    have hmark : (Rules.marks.image "" (altTexts content) "").length = "x".length := rfl
    have hitem := hsingle .marks true "" "" [] .start hidle
    have hsize := (Writer.wrote_image hidle "" "" content).size
    rw [List.append_nil, Writer.run_nil] at hitem
    rw [hitem, Writer.size_put, hmark, Writer.mark_length] at hsize
    have hnone : Writer.miss (isContained content) = 0 := by omega
    cases hc : isContained content with
    | true => rfl
    | false => simp [hc, Writer.miss] at hnone
  · intro hcontained rules lineBreaks source title later w h
    rw [Writer.run_append, Writer.run_image h hcontained]

/-- An image at the very end of a description does no harm. -/
theorem image_ending_description_single :
    let content : List Inline := [.text "a ", .image "inner.png" "" [.code "b"]]
    isContained content = true ∧
      ofEvents .story true (Event.ofInline (.image "outer.png" "" content) ++ [.text " c"]) =
        "<img src=\"outer.png\" alt=\"a b\" loading=\"lazy\"> c" := by
  intro content
  have hcontained : isContained content = true := by decide
  refine ⟨hcontained, ?_⟩
  rw [ofEvents, (image_single_item_iff content).2.mpr hcontained .story true _ _ _ _ ⟨rfl, rfl⟩]
  decide +kernel

/-- Text after an image inside another is written outside, and so are raw HTML and hard breaks,
which leave no space either. -/
theorem description_written_outside :
    let shown (content : List Inline) : String :=
      ofEvents .story true (Event.ofBlocks [.paragraph [.image "y.png" "" content]])
    let inner : List Inline := [.text "a ", .image "x.png" "" [.text "b"], .text " c"]
    let raw : List Inline := [.text "a ", .rawHtml "<b>", .text "x", .rawHtml "</b>"]
    let broken : List Inline := [.text "a", .hardBreak, .text "b"]
    altTexts inner = "a b c" ∧
      shown inner = "<p><img src=\"y.png\" alt=\"a b\" loading=\"lazy\"> c</p>" ∧
      altTexts raw = "a x" ∧
      shown raw = "<p><b></b><img src=\"y.png\" alt=\"a x\" loading=\"lazy\"></p>" ∧
      altTexts broken = "a b" ∧
      shown broken = "<p><br><img src=\"y.png\" alt=\"ab\" loading=\"lazy\"></p>" := by
  decide +kernel

end StoryPress.Html
