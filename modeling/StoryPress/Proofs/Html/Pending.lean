import StoryPress.Html.Tree
import StoryPress.Markdown.Description

/-! From the start of an image to the first end of any image, the writer only gathers the
alternative text: what is spoken goes there, what is spilled is written at once, and all else is
left out. Plain content spills nothing, so an image with a contained description is written as a
single item. -/
namespace StoryPress.Html

open StoryPress.Markdown (Event Inline Tag)
open StoryPress.Markdown.Inline (arePlain isContained isEmpty isPlain mayEnd)

/-- What an event inside an image adds to the alternative text. -/
def spoken : Event → String
  | .text s => s
  | .code s => s
  | .softBreak => " "
  | _ => ""

/-- What an event inside an image writes before the image. -/
def spilled (rules : Rules) : Event → String
  | .rawHtml s => s
  | .hardBreak => rules.hardBreak
  | .rule => rules.rule
  | .taskMarker checked => rules.taskMarker checked
  | _ => ""

def isImageEnd : Event → Bool
  | .leave (.image _ _) => true
  | _ => false

def PendingImage.hear (image : PendingImage) (s : String) : PendingImage :=
  { image with alt := image.alt ++ s }

namespace Writer

/-- Neither a code block nor an image is being collected. -/
structure Idle (w : Writer) : Prop where
  code : w.code = none
  image : w.image = none

/-- The writer while it collects an image. -/
def collect (w : Writer) (image : PendingImage) : Writer := { w with image := some image }

variable {rules : Rules} {lineBreaks : Bool} {w : Writer}

theorem Idle.put (h : w.Idle) (s : String) : (w.put s).Idle := ⟨h.code, h.image⟩

theorem put_put (w : Writer) (s t : String) : (w.put s).put t = w.put (s ++ t) := by
  simp [put, String.append_assoc]

@[simp] theorem put_empty (w : Writer) : w.put "" = w := by simp [put]

theorem run_cons (rules : Rules) (lineBreaks : Bool) (e : Event) (events : List Event)
    (w : Writer) :
    run rules lineBreaks (e :: events) w =
      run rules lineBreaks events (step rules lineBreaks w e) :=
  rfl

theorem run_around (rules : Rules) (lineBreaks : Bool) (tag : Tag) (content : List Event)
    (w : Writer) :
    run rules lineBreaks (Event.around tag content) w =
      step rules lineBreaks
        (run rules lineBreaks content (step rules lineBreaks w (.enter tag))) (.leave tag) := by
  rw [Event.around, run_cons, run_append]
  rfl

theorem step_enter_image (h : w.Idle) (source title : String) :
    step rules lineBreaks w (.enter (.image source title)) = w.collect ⟨source, title, ""⟩ := by
  simp [step, h.image, enter, collect]

theorem step_image_end (h : w.Idle) (image : PendingImage) (source title : String) :
    step rules lineBreaks (w.collect image) (.leave (.image source title)) =
      w.put (rules.image image.source image.alt image.title) := by
  simp [step, leave, collect, put, h.image]

/-- Without an open image, the end of one does nothing. -/
theorem step_image_end_idle (h : w.Idle) (source title : String) :
    step rules lineBreaks w (.leave (.image source title)) = w := by
  simp [step, leave, h.image]

theorem step_collect (h : w.Idle) (image : PendingImage) {e : Event} (he : isImageEnd e = false) :
    step rules lineBreaks (w.collect image) e =
      (w.put (spilled rules e)).collect (image.hear (spoken e)) := by
  cases e with
  | leave tag =>
    cases tag with
    | image source title => cases he
    | _ => simp [step, collect, put, spilled, spoken, PendingImage.hear]
  | text s => simp [step, collect, put, putOr, spilled, spoken, PendingImage.hear, h.code]
  | enter | code | rawHtml | softBreak | hardBreak | rule | taskMarker | footnoteReference
  | formula =>
    simp [step, collect, put, putOr, spilled, spoken, PendingImage.hear]

theorem run_collect (h : w.Idle) (image : PendingImage) {events : List Event}
    (hopen : ∀ e ∈ events, isImageEnd e = false) :
    run rules lineBreaks events (w.collect image) =
      (w.put (String.join (events.map (spilled rules)))).collect
        (image.hear (String.join (events.map spoken))) := by
  induction events generalizing w image with
  | nil => simp [PendingImage.hear]
  | cons e rest ih =>
    have hrest : ∀ later ∈ rest, isImageEnd later = false :=
      fun later hlater => hopen later (List.mem_cons_of_mem e hlater)
    rw [run_cons, step_collect h image (hopen e List.mem_cons_self), ih (h.put _) _ hrest, put_put]
    simp [PendingImage.hear, String.append_assoc]

/-- The first end of an image ends the image, also if it is the end of an image inside it. -/
theorem run_image_events (h : w.Idle) {events : List Event}
    (hopen : ∀ e ∈ events, isImageEnd e = false) (source title innerSource innerTitle : String)
    (later : List Event) :
    run rules lineBreaks
        (.enter (.image source title) ::
          (events ++ .leave (.image innerSource innerTitle) :: later)) w =
      run rules lineBreaks later
        (w.put (String.join (events.map (spilled rules)) ++
          rules.image source (String.join (events.map spoken)) title)) := by
  rw [run_cons, step_enter_image h, run_append, run_collect h _ hopen, run_cons,
    step_image_end (h.put _), put_put]
  simp [PendingImage.hear]

end Writer

/-- Events that only add to an alternative text. -/
structure Heard (rules : Rules) (events : List Event) (alt : String) : Prop where
  isOpen : ∀ e ∈ events, isImageEnd e = false
  spilled : String.join (events.map (spilled rules)) = ""
  spoken : String.join (events.map spoken) = alt

namespace Heard

variable {rules : Rules} {xs ys : List Event} {s t : String}

theorem single {e : Event} (hend : isImageEnd e = false) (hspilled : Html.spilled rules e = "") :
    Heard rules [e] (Html.spoken e) where
  isOpen other hother := List.mem_singleton.mp hother ▸ hend
  spilled := by simp [hspilled]
  spoken := by simp

theorem append (hx : Heard rules xs s) (hy : Heard rules ys t) :
    Heard rules (xs ++ ys) (s ++ t) where
  isOpen e he := (List.mem_append.mp he).elim (hx.isOpen e) (hy.isOpen e)
  spilled := by simp [hx.spilled, hy.spilled]
  spoken := by simp [hx.spoken, hy.spoken]

theorem around (h : Heard rules xs s) {tag : Tag} (htag : isImageEnd (.leave tag) = false) :
    Heard rules (Event.around tag xs) s where
  isOpen e he := by
    simp only [Event.around, List.mem_cons, List.mem_append, List.not_mem_nil, or_false] at he
    obtain rfl | he | rfl := he
    · rfl
    · exact h.isOpen e he
    · exact htag
  spilled := by simpa [Event.around, Html.spilled] using h.spilled
  spoken := by simpa [Event.around, Html.spoken] using h.spoken

end Heard

variable (rules : Rules)

mutual

theorem heard_ofInline : (i : Inline) → isPlain i = true →
    Heard rules (Event.ofInline i) (altText i)
  | .text _, _ => .single rfl rfl
  | .code _, _ => .single rfl rfl
  | .softBreak, _ => .single rfl rfl
  | .rawHtml _, h => .single rfl (of_decide_eq_true h)
  | .styled style content, h => by
    rw [Event.ofInline, altText]
    exact (heard_ofInlines content h).around rfl
  | .link url title content, h => by
    rw [Event.ofInline, altText]
    exact (heard_ofInlines content h).around rfl

theorem heard_ofInlines : (content : List Inline) → arePlain content = true →
    Heard rules (Event.ofInlines content) (altTexts content)
  | [], _ => ⟨by simp [Event.ofInlines], rfl, rfl⟩
  | i :: rest, h => by
    rw [arePlain, Bool.and_eq_true] at h
    rw [Event.ofInlines, altTexts]
    exact (heard_ofInline i h.1).append (heard_ofInlines rest h.2)

end

namespace Writer

variable {rules} {lineBreaks : Bool} {w : Writer}

theorem run_heard (h : w.Idle) (image : PendingImage) {events : List Event} {alt : String}
    (heard : Heard rules events alt) :
    run rules lineBreaks events (w.collect image) = w.collect (image.hear alt) := by
  rw [run_collect h image heard.isOpen, heard.spilled, heard.spoken, put_empty]

theorem altTexts_of_isEmpty {content : List Inline} (h : content.all isEmpty = true) :
    altTexts content = "" := by
  induction content with
  | nil => rfl
  | cons i rest ih =>
    rw [List.all_cons, Bool.and_eq_true] at h
    rw [altTexts, ih h.2, String.append_empty]
    cases i with
    | text s => exact of_decide_eq_true h.1
    | rawHtml s => rfl
    | _ => cases h.1

theorem run_isEmpty (h : w.Idle) {content : List Inline} (hempty : content.all isEmpty = true) :
    run rules lineBreaks (Event.ofInlines content) w = w := by
  induction content with
  | nil => rfl
  | cons i rest ih =>
    rw [List.all_cons, Bool.and_eq_true] at hempty
    rw [Event.ofInlines, run_append]
    suffices run rules lineBreaks (Event.ofInline i) w = w by rw [this, ih hempty.2]
    cases i with
    | text s =>
      obtain rfl : s = "" := of_decide_eq_true hempty.1
      simp [Event.ofInline, run, step, putOr, h.code, h.image, Text.escape, Text.escapeChars]
    | rawHtml s =>
      obtain rfl : s = "" := of_decide_eq_true hempty.1
      simp [Event.ofInline, run, step]
    | _ => cases hempty.1

mutual

/-- An image at the end of a description ends the image around it. -/
theorem run_mayEnd (image : PendingImage) (h : w.Idle) : (i : Inline) → mayEnd i = true →
    run rules lineBreaks (Event.ofInline i) (w.collect image) =
      w.put (rules.image image.source (image.alt ++ altText i) image.title)
  | .image source title content, hend => by
    have hstart : step rules lineBreaks (w.collect image) (.enter (.image source title)) =
        w.collect image := rfl
    rw [Event.ofInline, Event.around, run_cons, hstart, altText]
    exact run_contained image h source title content hend

theorem run_contained (image : PendingImage) (h : w.Idle) (source title : String) :
    (content : List Inline) → isContained content = true →
    run rules lineBreaks (Event.ofInlines content ++ [.leave (.image source title)])
        (w.collect image) =
      w.put (rules.image image.source (image.alt ++ altTexts content) image.title)
  | [], _ => by
    rw [altTexts, String.append_empty, Event.ofInlines, List.nil_append, run_cons, run_nil]
    exact step_image_end h image source title
  | i :: rest, hcontained => by
    rw [isContained, Bool.or_eq_true, Bool.and_eq_true, Bool.and_eq_true] at hcontained
    rw [Event.ofInlines, altTexts, List.append_assoc, run_append]
    obtain ⟨hplain, hrest⟩ | ⟨hend, hempty⟩ := hcontained
    · rw [run_heard h image (heard_ofInline rules i hplain),
        run_contained (image.hear (altText i)) h source title rest hrest]
      simp [PendingImage.hear, String.append_assoc]
    · rw [run_mayEnd image h i hend, run_append, run_isEmpty (h.put _) hempty,
        altTexts_of_isEmpty hempty, String.append_empty, run_cons, run_nil]
      exact step_image_end_idle (h.put _) source title

end

/-- An image with a contained description is written as a single item. -/
theorem run_image (h : w.Idle) {content : List Inline} (hcontained : isContained content = true)
    (source title : String) :
    run rules lineBreaks (Event.ofInline (.image source title content)) w =
      w.put (rules.image source (altTexts content) title) := by
  rw [Event.ofInline, Event.around, run_cons, step_enter_image h,
    run_contained _ h source title content hcontained]
  simp

end Writer

end StoryPress.Html
