import StoryPress.Html.Fragment
import StoryPress.Proofs.Html.Tags

namespace StoryPress.Html

open StoryPress.Markdown (Event Tag)

namespace Fragment

theorem writeAll_ofTitle (title : String) :
    writeAll (ofTitle title) = Rules.titleAttribute title := by
  unfold ofTitle Rules.titleAttribute
  split <;> simp [ofAttribute, Rules.attr, write, String.append_assoc]

theorem writeAll_ofLinkStart (url title : String) :
    writeAll (ofLinkStart url title) = Rules.story.linkStart url title := by
  simp [ofLinkStart, writeAll_ofTitle, ofAttribute, write, Rules.story, Rules.attr,
    String.append_assoc]

theorem writeAll_ofImage (source alt title : String) :
    writeAll (ofImage source alt title) = Rules.story.image source alt title := by
  simp [ofImage, writeAll_ofTitle, ofAttribute, write, Rules.story, Rules.standard,
    Rules.storyImage, Rules.attr, String.append_assoc]

theorem writeAll_ofCodeSpan (code : String) :
    writeAll (ofCodeSpan code) = Rules.story.codeSpan code := by
  simp [ofCodeSpan, write, Rules.story, Rules.standard, String.append_assoc]

theorem writeAll_ofCodeBlock (language : Option String) (content : String) :
    writeAll (ofCodeBlock language content) = Rules.story.codeBlock language content := by
  apply String.toList_injective
  cases language <;>
    simp [ofCodeBlock, ofLanguage, write, Rules.story, Rules.standard, Rules.storyCodeBlock]

/-- No data starts or ends a tag or an attribute value. -/
theorem marks_writeAll (fragments : List Fragment) :
    marks (writeAll fragments) = (markupOf fragments).flatMap marks := by
  induction fragments with
  | nil => rfl
  | cons fragment rest ih =>
    rw [writeAll_cons, marks_append, ih]
    cases fragment with
    | markup s => rfl
    | data s => rw [write, marks_escape, List.nil_append, markupOf_data]

end Fragment

namespace Writer

open Fragment (writeAll)

variable (rules : Rules) (lineBreaks : Bool) (w : Writer)

theorem enter_out (tag : Tag) :
    (w.enter rules tag).out = w.out ++ (w.fresh.enter rules tag).out := by
  cases tag with
  | list start =>
    obtain _ | _ | _ | n := start <;> simp [enter, put, fresh]
  | tableCell => cases hhead : w.table.inHead <;> simp [enter, put, fresh, hhead]
  | _ => simp [enter, put, fresh]

theorem leave_out (tag : Tag) :
    (w.leave rules tag).out = w.out ++ (w.fresh.leave rules tag).out := by
  cases tag with
  | code info => cases hcode : w.code <;> simp [leave, put, fresh, hcode]
  | image source title => cases himage : w.image <;> simp [leave, put, fresh, himage]
  | list start => cases start <;> simp [leave, put, fresh]
  | tableCell => cases hhead : w.table.inHead <;> simp [leave, put, fresh, hhead]
  | _ => simp [leave, put, fresh]

/-- What is written does not depend on what was written before. -/
theorem step_out (e : Event) :
    (step rules lineBreaks w e).out = w.out ++ (step rules lineBreaks w.fresh e).out := by
  have himage : w.fresh.image = w.image := rfl
  cases e with
  | enter tag =>
    simp only [step, himage]
    split
    · simp [fresh]
    · exact enter_out rules w tag
  | leave tag =>
    simp only [step, himage]
    split
    · exact leave_out rules w _
    · simp [fresh]
    · exact leave_out rules w _
  | text s =>
    cases hcode : w.code <;> cases hopen : w.image <;> simp [step, putOr, put, fresh, hcode, hopen]
  | code s => cases hopen : w.image <;> simp [step, putOr, put, fresh, hopen]
  | softBreak => cases hopen : w.image <;> simp [step, putOr, put, fresh, hopen]
  | _ => simp [step, put, fresh]

/-- The fragments of an event are what it writes. -/
theorem writeAll_added (e : Event) :
    writeAll (added lineBreaks w e) = (step .story lineBreaks w.fresh e).out := by
  cases e with
  | enter tag =>
    cases tag with
    | link url title =>
      cases hopen : w.image <;>
        simp [added, step, enter, put, fresh, hopen, Fragment.writeAll_ofLinkStart]
    | _ => simp [added, Fragment.write]
  | leave tag =>
    cases tag with
    | code info =>
      cases hopen : w.image <;> cases hcode : w.code <;>
        simp [added, step, leave, put, fresh, hopen, hcode, Fragment.writeAll_ofCodeBlock]
    | image source title =>
      cases hopen : w.image <;>
        simp [added, step, leave, put, fresh, hopen, Fragment.writeAll_ofImage]
    | _ => simp [added, Fragment.write]
  | text s =>
    cases hcode : w.code <;> cases hopen : w.image <;>
      simp [added, step, putOr, put, fresh, hcode, hopen, Fragment.write]
  | code s =>
    cases hopen : w.image <;>
      simp [added, step, putOr, put, fresh, hopen, Fragment.writeAll_ofCodeSpan]
  | _ => simp [added, Fragment.write]

theorem run_out (events : List Event) :
    (run .story lineBreaks events w).out = w.out ++ writeAll (fragments lineBreaks w events) := by
  induction events generalizing w with
  | nil => simp [fragments]
  | cons e rest ih =>
    rw [fragments, Fragment.writeAll_append, writeAll_added, ← String.append_assoc, ← step_out]
    exact ih _

end Writer

theorem ofEvents_eq (lineBreaks : Bool) (events : List Event) :
    ofEvents .story lineBreaks events =
      Fragment.writeAll (Writer.fragments lineBreaks .start events) := by
  simp [ofEvents, Writer.run_out, Writer.start]

end StoryPress.Html
