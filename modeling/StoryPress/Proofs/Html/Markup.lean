import StoryPress.Proofs.Html.Fragments
import StoryPress.Proofs.Html.Frames

/-! Two runs of the writer on events of the same frames. The writers have the same frame all the
way, so each event writes the same tags, and the same markup where all attributes are kept. Where no
raw HTML is copied, no string that an event carries can change the markup. -/
namespace StoryPress.Html

open StoryPress.Markdown (ColumnAlignment Event Tag)
open Fragment (markupOf writeAll)

/-- Fragments with the same tags, and with the same markup if all attributes are kept. -/
structure Alike (attributes : Bool) (xs ys : List Fragment) : Prop where
  tags : ∃ tags, Tagged (writeAll xs) tags ∧ Tagged (writeAll ys) tags
  markup : attributes = true → markupOf xs = markupOf ys

namespace Alike

variable {attributes : Bool} {xs ys zs vs : List Fragment}

theorem symm (h : Alike attributes xs ys) : Alike attributes ys xs where
  tags := h.tags.imp fun _ htags => htags.symm
  markup hkept := (h.markup hkept).symm

theorem trans (hxy : Alike attributes xs ys) (hyz : Alike attributes ys zs) :
    Alike attributes xs zs where
  tags := by
    obtain ⟨tags, hx, hy⟩ := hxy.tags
    obtain ⟨others, hy', hz⟩ := hyz.tags
    obtain rfl : tags = others := hy.tagsOf_eq.symm.trans hy'.tagsOf_eq
    exact ⟨tags, hx, hz⟩
  markup hkept := (hxy.markup hkept).trans (hyz.markup hkept)

theorem append (hxy : Alike attributes xs ys) (hzv : Alike attributes zs vs) :
    Alike attributes (xs ++ zs) (ys ++ vs) where
  tags := by
    obtain ⟨first, hx, hy⟩ := hxy.tags
    obtain ⟨second, hz, hv⟩ := hzv.tags
    rw [Fragment.writeAll_append, Fragment.writeAll_append]
    exact ⟨first ++ second, hx.append hz, hy.append hv⟩
  markup hkept := by
    rw [Fragment.markupOf_append, Fragment.markupOf_append, hxy.markup hkept, hzv.markup hkept]

theorem nil : Alike attributes [] [] := ⟨⟨[], fun _ => rfl, fun _ => rfl⟩, fun _ => rfl⟩

theorem data (s t : String) : Alike attributes [.data s] [.data t] where
  tags := by
    refine ⟨[], ?_, ?_⟩
    all_goals
      rw [Fragment.writeAll_cons, Fragment.writeAll_nil, String.append_empty]
      exact .escaped _
  markup _ := rfl

theorem own {s : String} (h : Closed s) :
    Alike attributes [.markup s] [.markup s] where
  tags := by
    rw [Fragment.writeAll_cons, Fragment.writeAll_nil, String.append_empty]
    exact h.imp fun _ htags => ⟨htags, htags⟩
  markup _ := rfl

theorem linkStart (url title : String) :
    Alike attributes (Fragment.ofLinkStart url title)
      (Fragment.ofLinkStart (Frame.ofUrl attributes url) (Frame.ofTitle attributes title)) where
  tags := by
    rw [Fragment.writeAll_ofLinkStart, Fragment.writeAll_ofLinkStart]
    exact ⟨_, tagged_linkStart _ _, tagged_linkStart _ _⟩
  markup hkept := by
    subst hkept
    by_cases htitle : title = "" <;>
      simp [Fragment.ofLinkStart, Fragment.ofTitle, Fragment.ofAttribute, Frame.isExternal_ofUrl,
        Frame.ofTitle, Frame.standIn, htitle]

theorem image (source alt title : String) :
    Alike attributes (Fragment.ofImage source alt title)
      (Fragment.ofImage "" "" (Frame.ofTitle attributes title)) where
  tags := by
    rw [Fragment.writeAll_ofImage, Fragment.writeAll_ofImage]
    exact ⟨_, tagged_image _ _ _, tagged_image _ _ _⟩
  markup hkept := by
    subst hkept
    by_cases htitle : title = "" <;>
      simp [Fragment.ofImage, Fragment.ofTitle, Fragment.ofAttribute, Frame.ofTitle,
        Frame.standIn, htitle]

theorem codeSpan (code : String) :
    Alike attributes (Fragment.ofCodeSpan code) (Fragment.ofCodeSpan "") where
  tags := by
    rw [Fragment.writeAll_ofCodeSpan, Fragment.writeAll_ofCodeSpan]
    exact ⟨_, tagged_codeSpan _, tagged_codeSpan _⟩
  markup _ := rfl

theorem codeBlock (language : Option String) (content : String) :
    Alike attributes (Fragment.ofCodeBlock language content)
      (Fragment.ofCodeBlock (Frame.ofLanguage attributes language) "") where
  tags := by
    rw [Fragment.writeAll_ofCodeBlock, Fragment.writeAll_ofCodeBlock]
    exact ⟨_, tagged_codeBlock _ _, tagged_codeBlock _ _⟩
  markup hkept := by
    subst hkept
    cases language <;> rfl

end Alike

/-- An event with which the writer may write data. -/
def carriesData : Event → Bool
  | .enter (.link _ _) => true
  | .leave (.code _) => true
  | .leave (.image _ _) => true
  | .text _ => true
  | .code _ => true
  | .rawHtml _ => true
  | _ => false

namespace Writer

theorem out_put_fresh (w : Writer) (s : String) : (w.fresh.put s).out = s := String.empty_append

theorem closed_heading (level : Nat) :
    Closed ("<" ++ headingTag level ++ ">") ∧ Closed ("</" ++ headingTag level ++ ">") := by
  have hend : "</" ++ headingTag level ++ ">" = "<" ++ ("/" ++ headingTag level) ++ ">" := by
    simp [← String.append_assoc]
  rw [hend]
  exact ⟨⟨_, .element (by simp [headingTag])⟩, ⟨_, .element (by simp [headingTag])⟩⟩

theorem closed_listStart (n : Nat) : Closed ("<ol start=\"" ++ toString n ++ "\">") := by
  have helement : "<ol start=\"" ++ toString n ++ "\">" =
      "<" ++ ("ol start=\"" ++ toString n ++ "\"") ++ ">" := by
    apply String.toList_injective
    simp
  rw [helement]
  exact ⟨_, .element (by simp)⟩

theorem closed_cell (inHead : Bool) (alignment : ColumnAlignment) :
    Closed ((if inHead then "<th" else "<td") ++ alignmentStyle alignment ++ ">") := by
  cases inHead <;> cases alignment <;> exact .of_tagged fun _ => rfl

theorem closed_enter (w : Writer) {tag : Tag} (h : carriesData (.enter tag) = false) :
    Closed (w.fresh.enter .story tag).out := by
  cases tag with
  | link url title => cases h
  | paragraph | quote | item | table | tableHead | tableRow | definitionList | definitionTerm
  | definitionDetails =>
    simp only [enter, out_put_fresh]
    exact .of_tagged fun _ => rfl
  | heading level =>
    rw [enter, out_put_fresh]
    exact (closed_heading level).1
  | list start =>
    obtain _ | _ | _ | n := start <;> simp only [enter, out_put_fresh]
    case none => exact .of_tagged fun _ => rfl
    case some.succ.zero => exact .of_tagged fun _ => rfl
    all_goals exact closed_listStart _
  | tableCell =>
    rw [enter, out_put_fresh]
    exact closed_cell _ _
  | styled style =>
    rw [enter, out_put_fresh]
    cases style <;> exact .of_tagged fun _ => rfl
  | code | image | htmlBlock | footnote | metadata => exact .of_tagged fun _ => rfl

theorem closed_leave (w : Writer) {tag : Tag} (h : carriesData (.leave tag) = false) :
    Closed (w.fresh.leave .story tag).out := by
  cases tag with
  | code info => cases h
  | image source title => cases h
  | paragraph | quote | item | table | tableHead | tableRow | definitionList | definitionTerm
  | definitionDetails | link =>
    simp only [leave, out_put_fresh]
    exact .of_tagged fun _ => rfl
  | heading level =>
    rw [leave, out_put_fresh]
    exact (closed_heading level).2
  | list start =>
    cases start <;> rw [leave, out_put_fresh] <;> exact .of_tagged fun _ => rfl
  | tableCell =>
    simp only [leave, out_put_fresh]
    cases w.fresh.table.inHead <;> exact .of_tagged fun _ => rfl
  | styled style =>
    rw [leave, out_put_fresh]
    cases style <;> exact .of_tagged fun _ => rfl
  | htmlBlock | footnote | metadata => exact .of_tagged fun _ => rfl

theorem closed_step (lineBreaks : Bool) (w : Writer) {e : Event} (h : carriesData e = false) :
    Closed (step .story lineBreaks w.fresh e).out := by
  have hempty : Closed w.fresh.out := .of_tagged fun _ => rfl
  cases e with
  | enter tag =>
    simp only [step]
    split
    · exact hempty
    · exact closed_enter w h
  | leave tag =>
    simp only [step]
    split
    · exact closed_leave w h
    · exact hempty
    · exact closed_leave w h
  | softBreak =>
    simp only [step, putOr]
    split
    · exact hempty
    · rw [out_put_fresh]
      cases lineBreaks <;> exact .of_tagged fun _ => rfl
  | taskMarker checked =>
    rw [step, out_put_fresh]
    cases checked <;> exact .of_tagged fun _ => rfl
  | hardBreak | rule =>
    rw [step, out_put_fresh]
    exact .of_tagged fun _ => rfl
  | footnoteReference | formula => exact hempty
  | text | code | rawHtml => cases h

variable (attributes : Bool)

theorem enter_out_frame (w : Writer) {tag : Tag} (h : carriesData (.enter tag) = false) :
    ((Frame.ofWriter attributes w).fresh.enter .story (Frame.ofTag attributes tag)).out =
      (w.fresh.enter .story tag).out := by
  cases tag with
  | link url title => cases h
  | list start => obtain _ | _ | _ | n := start <;> rfl
  | _ => rfl

theorem leave_out_frame (w : Writer) {tag : Tag} (h : carriesData (.leave tag) = false) :
    ((Frame.ofWriter attributes w).fresh.leave .story (Frame.ofTag attributes tag)).out =
      (w.fresh.leave .story tag).out := by
  cases tag with
  | code info => cases h
  | image source title => cases h
  | list start => cases start <;> rfl
  | _ => rfl

theorem step_out_frame (lineBreaks : Bool) (w : Writer) {e : Event} (h : carriesData e = false) :
    (step .story lineBreaks (Frame.ofWriter attributes w).fresh (Frame.ofEvent attributes e)).out =
      (step .story lineBreaks w.fresh e).out := by
  obtain ⟨out, code, image, table⟩ := w
  cases e with
  | enter tag =>
    cases image with
    | none => exact enter_out_frame attributes _ h
    | some image => rfl
  | leave tag =>
    cases image with
    | none => exact leave_out_frame attributes _ h
    | some image =>
      cases tag with
      | image source title => cases h
      | _ => rfl
  | softBreak => cases image <;> rfl
  | text | code | rawHtml => cases h
  | _ => rfl

theorem carriesData_ofEvent (e : Event) :
    carriesData (Frame.ofEvent attributes e) = carriesData e := by
  cases e with
  | enter tag => cases tag <;> rfl
  | leave tag => cases tag <;> rfl
  | _ => rfl

theorem added_own (lineBreaks : Bool) (w : Writer) {e : Event} (h : carriesData e = false) :
    added lineBreaks w e = [.markup (step .story lineBreaks w.fresh e).out] := by
  cases e with
  | enter tag =>
    cases tag with
    | link url title => cases h
    | _ => rfl
  | leave tag =>
    cases tag with
    | code info => cases h
    | image source title => cases h
    | _ => rfl
  | text | code | rawHtml => cases h
  | _ => rfl

theorem alike_own (lineBreaks : Bool) (w : Writer) {e : Event} (h : carriesData e = false) :
    Alike attributes (added lineBreaks w e)
      (added lineBreaks (Frame.ofWriter attributes w) (Frame.ofEvent attributes e)) := by
  have hframe : carriesData (Frame.ofEvent attributes e) = false := by
    rw [carriesData_ofEvent, h]
  rw [added_own lineBreaks w h, added_own lineBreaks _ hframe,
    step_out_frame attributes lineBreaks w h]
  exact .own (closed_step lineBreaks w h)

theorem alike_added (lineBreaks : Bool) (w : Writer) {e : Event} (hraw : e.isRawHtml = false) :
    Alike attributes (added lineBreaks w e)
      (added lineBreaks (Frame.ofWriter attributes w) (Frame.ofEvent attributes e)) := by
  obtain ⟨out, code, image, table⟩ := w
  cases e with
  | enter tag =>
    cases tag with
    | link url title =>
      cases image with
      | none => exact .linkStart url title
      | some image => exact .nil
    | _ => exact alike_own attributes lineBreaks _ rfl
  | leave tag =>
    cases tag with
    | code info =>
      cases image <;> cases code
      case none.some code => exact .codeBlock code.1 code.2
      all_goals exact .nil
    | image source title =>
      cases image with
      | none => exact .nil
      | some image => exact .image image.source image.alt image.title
    | _ => exact alike_own attributes lineBreaks _ rfl
  | text s =>
    cases code <;> cases image
    case none.none => exact .data s ""
    all_goals exact .nil
  | code s =>
    cases image with
    | none => exact .codeSpan s
    | some image => exact .nil
  | rawHtml s => cases hraw
  | _ => exact alike_own attributes lineBreaks _ rfl

variable {attributes} {lineBreaks : Bool} {v w : Writer}

theorem step_same_frame (hframe : Frame.ofWriter attributes v = Frame.ofWriter attributes w)
    {e f : Event} (hevent : Frame.ofEvent attributes e = Frame.ofEvent attributes f) :
    Frame.ofWriter attributes (step .story lineBreaks v e) =
      Frame.ofWriter attributes (step .story lineBreaks w f) := by
  rw [Frame.ofWriter_step, hframe, hevent, ← Frame.ofWriter_step]

theorem added_same_frame (hframe : Frame.ofWriter attributes v = Frame.ofWriter attributes w)
    {e f : Event} (hevent : Frame.ofEvent attributes e = Frame.ofEvent attributes f)
    (he : e.isRawHtml = false) (hf : f.isRawHtml = false) :
    Alike attributes (added lineBreaks v e) (added lineBreaks w f) := by
  have hleft := alike_added attributes lineBreaks v he
  rw [hframe, hevent] at hleft
  exact hleft.trans (alike_added attributes lineBreaks w hf).symm

variable (attributes) in
theorem isRawHtml_ofEvent (e : Event) :
    (Frame.ofEvent attributes e).isRawHtml = e.isRawHtml := by
  cases e <;> rfl

/-- From writers of the same frame, events of the same frames write alike. -/
theorem fragments_same_frame {xs ys : List Event}
    (hframe : Frame.ofWriter attributes v = Frame.ofWriter attributes w)
    (hevents : xs.map (Frame.ofEvent attributes) = ys.map (Frame.ofEvent attributes))
    (hraw : ∀ e ∈ xs, e.isRawHtml = false) :
    Alike attributes (fragments lineBreaks v xs) (fragments lineBreaks w ys) := by
  induction xs generalizing ys v w with
  | nil =>
    obtain rfl : ys = [] := by simpa using hevents.symm
    exact .nil
  | cons e xs ih =>
    cases ys with
    | nil => cases hevents
    | cons f ys =>
      obtain ⟨hevent, hrest⟩ := List.cons.inj hevents
      have he : e.isRawHtml = false := hraw e List.mem_cons_self
      have hf : f.isRawHtml = false := by
        rw [← isRawHtml_ofEvent attributes, ← hevent, isRawHtml_ofEvent, he]
      exact (added_same_frame hframe hevent he hf).append
        (ih (step_same_frame hframe hevent) hrest fun later hlater =>
          hraw later (List.mem_cons_of_mem e hlater))

end Writer

/-- Events that differ in their strings alone are written with the same tags. All that starts or
ends a tag or an attribute value is markup, and the markup is that of the same events with stand-ins
for all their strings. -/
theorem markup_independent_of_strings (lineBreaks : Bool) (xs ys : List Event)
    (hraw : ∀ e ∈ xs, e.isRawHtml = false)
    (hframe : xs.map (Frame.ofEvent false) = ys.map (Frame.ofEvent false)) :
    tagsOf (ofEvents .story lineBreaks xs) = tagsOf (ofEvents .story lineBreaks ys) ∧
    ofEvents .story lineBreaks xs = writeAll (Writer.fragments lineBreaks .start xs) ∧
    marks (ofEvents .story lineBreaks xs) =
      (markupOf (Writer.fragments lineBreaks .start xs)).flatMap marks ∧
    markupOf (Writer.fragments lineBreaks .start xs) =
      markupOf (Writer.fragments lineBreaks .start (xs.map (Frame.ofEvent true))) := by
  refine ⟨?tags, ofEvents_eq lineBreaks xs, ?marks, ?markup⟩
  case tags =>
    have halike : Alike false (Writer.fragments lineBreaks .start xs)
        (Writer.fragments lineBreaks .start ys) := Writer.fragments_same_frame rfl hframe hraw
    obtain ⟨tags, hx, hy⟩ := halike.tags
    rw [ofEvents_eq, ofEvents_eq, hx.tagsOf_eq, hy.tagsOf_eq]
  case marks => rw [ofEvents_eq, Fragment.marks_writeAll]
  case markup =>
    have hidempotent : xs.map (Frame.ofEvent true) =
        (xs.map (Frame.ofEvent true)).map (Frame.ofEvent true) := by
      simp [Frame.ofEvent_ofEvent]
    exact (Writer.fragments_same_frame rfl hidempotent hraw).markup rfl

theorem script_in_link_adds_no_tag :
    tagsOf (ofEvents .story true
      [.enter .paragraph, .enter (.link "\"><script>" "<b>"), .code "</p>",
        .leave (.link "\"><script>" "<b>"), .leave .paragraph]) =
      [⟨false, "p"⟩, ⟨false, "a"⟩, ⟨false, "code"⟩, ⟨true, "code"⟩, ⟨true, "a"⟩, ⟨true, "p"⟩] :=
  (markup_independent_of_strings true _
    [.enter .paragraph, .enter (.link "" ""), .code "", .leave (.link "" ""), .leave .paragraph]
    (by decide) (by decide)).1.trans (by decide +kernel)

end StoryPress.Html
