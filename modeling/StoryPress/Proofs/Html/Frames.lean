import StoryPress.Html.Frame

namespace StoryPress.Html

open StoryPress.Markdown (Event Tag)

namespace Frame

variable (attributes : Bool)

/-- The language that a frame leaves of a code block. -/
def ofLanguage (language : Option String) : Option String :=
  if attributes then language.map fun _ => "c" else none

def ofCode (code : Option (Option String × String)) : Option (Option String × String) :=
  code.map fun code => (ofLanguage attributes code.1, "")

def ofPending (image : Option PendingImage) : Option PendingImage :=
  image.map fun image => ⟨"", ofTitle attributes image.title, ""⟩

/-- What a writer holds back, without the strings. -/
def ofWriter (w : Writer) : Writer :=
  ⟨"", ofCode attributes w.code, ofPending attributes w.image, w.table⟩

/-- A stand-in gives what its string does, if attributes are kept. -/
@[simp] theorem standIn_and (gives : Bool) (bare : String) :
    standIn attributes (attributes && gives) bare = standIn attributes gives bare := by
  cases attributes <;> rfl

theorem ofTitle_ne (title : String) :
    (ofTitle attributes title != "") = (attributes && title != "") := by
  unfold ofTitle standIn
  split
  · next h => rw [h, bne_iff_ne]; decide
  · next h => rw [eq_false_of_ne_true h, bne_self_eq_false]

theorem isExternal_ofUrl (url : String) :
    Rules.isExternal (ofUrl attributes url) = (attributes && Rules.isExternal url) := by
  have hout : Rules.isExternal "//" = true := rfl
  have hin : Rules.isExternal "" = false := rfl
  unfold ofUrl standIn
  split
  · next h => rw [h, hout]
  · next h => rw [eq_false_of_ne_true h, hin]

@[simp] theorem language?_map_ofInfo (info : Option String) :
    Writer.language? (info.map (ofInfo attributes)) =
      ofLanguage attributes (Writer.language? info) := by
  have hbare : Writer.language? (some "c") = some "c" := rfl
  have hnone : Writer.language? (some "") = none := rfl
  cases info with
  | none => cases attributes <;> rfl
  | some info =>
    cases hlanguage : Writer.language? (some info) <;> cases attributes <;>
      simp [ofInfo, ofLanguage, standIn, hlanguage, hbare, hnone]

theorem isSome_ofLanguage (language : Option String) :
    (ofLanguage attributes language).isSome = (attributes && language.isSome) := by
  cases attributes <;> cases language <;> rfl

@[simp] theorem ofTitle_ofTitle (title : String) :
    ofTitle attributes (ofTitle attributes title) = ofTitle attributes title := by
  rw [ofTitle, ofTitle_ne, standIn_and, ofTitle]

@[simp] theorem ofUrl_ofUrl (url : String) :
    ofUrl attributes (ofUrl attributes url) = ofUrl attributes url := by
  rw [ofUrl, isExternal_ofUrl, standIn_and, ofUrl]

@[simp] theorem ofInfo_ofInfo (info : String) :
    ofInfo attributes (ofInfo attributes info) = ofInfo attributes info := by
  have hlanguage : Writer.language? (some (ofInfo attributes info)) =
      ofLanguage attributes (Writer.language? (some info)) :=
    language?_map_ofInfo attributes (some info)
  rw [ofInfo, hlanguage, isSome_ofLanguage, standIn_and, ofInfo]

theorem ofEvent_ofEvent (e : Event) :
    ofEvent attributes (ofEvent attributes e) = ofEvent attributes e := by
  have htag (tag : Tag) : ofTag attributes (ofTag attributes tag) = ofTag attributes tag := by
    cases tag with
    | code info => cases info <;> simp [ofTag]
    | _ => simp [ofTag]
  cases e <;> simp [ofEvent, htag]

@[simp] theorem ofLanguage_ofLanguage (language : Option String) :
    ofLanguage attributes (ofLanguage attributes language) = ofLanguage attributes language := by
  cases attributes <;> cases language <;> rfl

@[simp] theorem ofCode_ofCode (code : Option (Option String × String)) :
    ofCode attributes (ofCode attributes code) = ofCode attributes code := by
  cases code <;> simp [ofCode]

@[simp] theorem ofPending_ofPending (image : Option PendingImage) :
    ofPending attributes (ofPending attributes image) = ofPending attributes image := by
  cases image <;> simp [ofPending]

@[simp] theorem isSome_ofPending (image : Option PendingImage) :
    (ofPending attributes image).isSome = image.isSome := Option.isSome_map

theorem ofWriter_enter (w : Writer) (tag : Tag) :
    ofWriter attributes (w.enter .story tag) =
      ofWriter attributes ((ofWriter attributes w).enter .story (ofTag attributes tag)) := by
  cases tag with
  | code info => simp [Writer.enter, ofWriter, ofTag, ofCode]
  | list start =>
    obtain _ | _ | _ | n := start <;> simp [Writer.enter, Writer.put, ofWriter, ofTag]
  | image source title => simp [Writer.enter, ofWriter, ofTag, ofPending]
  | _ => simp [Writer.enter, Writer.put, ofWriter, ofTag]

theorem ofWriter_leave (w : Writer) (tag : Tag) :
    ofWriter attributes (w.leave .story tag) =
      ofWriter attributes ((ofWriter attributes w).leave .story (ofTag attributes tag)) := by
  obtain ⟨out, code, image, table⟩ := w
  cases tag with
  | code info => cases code <;> simp [Writer.leave, Writer.put, ofWriter, ofTag, ofCode]
  | list start => cases start <;> simp [Writer.leave, Writer.put, ofWriter, ofTag]
  | image source title =>
    cases image <;> simp [Writer.leave, Writer.put, ofWriter, ofTag, ofPending]
  | _ => simp [Writer.leave, Writer.put, ofWriter, ofTag]

/-- What a writer holds back after an event depends on the frames alone. -/
theorem ofWriter_step (lineBreaks : Bool) (w : Writer) (e : Event) :
    ofWriter attributes (Writer.step .story lineBreaks w e) =
      ofWriter attributes
        (Writer.step .story lineBreaks (ofWriter attributes w) (ofEvent attributes e)) := by
  cases e with
  | enter tag =>
    have hopen : (ofWriter attributes w).image.isSome = w.image.isSome :=
      isSome_ofPending attributes w.image
    simp only [Writer.step, ofEvent, hopen]
    split
    · simp [ofWriter]
    · exact ofWriter_enter attributes w tag
  | leave tag =>
    obtain ⟨out, code, image, table⟩ := w
    cases image with
    | none => exact ofWriter_leave attributes _ tag
    | some image =>
      cases tag with
      | image source title => exact ofWriter_leave attributes _ (.image source title)
      | _ => simp [Writer.step, ofWriter, ofEvent, ofTag, ofPending]
  | text s =>
    obtain ⟨out, code, image, table⟩ := w
    cases code <;> cases image <;>
      simp [Writer.step, Writer.putOr, Writer.put, ofWriter, ofEvent, ofCode, ofPending]
  | code s =>
    obtain ⟨out, code, image, table⟩ := w
    cases image <;>
      simp [Writer.step, Writer.putOr, Writer.put, ofWriter, ofEvent, ofPending]
  | softBreak =>
    obtain ⟨out, code, image, table⟩ := w
    cases image <;>
      simp [Writer.step, Writer.putOr, Writer.put, ofWriter, ofEvent, ofPending]
  | _ => simp [Writer.step, Writer.put, ofWriter, ofEvent]

end Frame

end StoryPress.Html
