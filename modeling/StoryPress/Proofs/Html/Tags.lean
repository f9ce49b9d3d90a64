import StoryPress.Html.Tags
import StoryPress.Html.Rules
import StoryPress.Proofs.Text.Escape

namespace StoryPress.Html

open StoryPress.Text (escape escapeChars)

theorem not_isMark_of_mem_escapeChars {cs : List Char} {c : Char} (h : c ∈ escapeChars cs) :
    isMark c = false := by
  rw [Bool.eq_false_iff]
  intro hmark
  have hmem : c ∈ ['<', '>', '"', '\''] := by
    rw [isMark, Bool.or_eq_true, Bool.or_eq_true, beq_iff_eq, beq_iff_eq, beq_iff_eq] at hmark
    rcases hmark with (rfl | rfl) | rfl <;> decide
  exact (Text.isEscaped_escapeChars cs).marks c hmem h

@[simp] theorem lt_not_mem_escapeChars (cs : List Char) : '<' ∉ escapeChars cs := fun h =>
  absurd (not_isMark_of_mem_escapeChars h) (by decide)

@[simp] theorem gt_not_mem_escapeChars (cs : List Char) : '>' ∉ escapeChars cs := fun h =>
  absurd (not_isMark_of_mem_escapeChars h) (by decide)

@[simp] theorem marks_escape (s : String) : marks (escape s) = [] := by
  rw [marks, Text.toList_escape, List.filter_eq_nil_iff]
  intro c hc
  rw [not_isMark_of_mem_escapeChars hc]
  exact Bool.false_ne_true

theorem tagsFrom_outside {cs : List Char} (h : '<' ∉ cs) (rest : List Char) :
    tagsFrom .outside (cs ++ rest) = tagsFrom .outside rest := by
  induction cs with
  | nil => rfl
  | cons c cs ih =>
    rw [List.mem_cons, not_or] at h
    rw [List.cons_append, tagsFrom, if_neg (Ne.symm h.1), ih h.2]

theorem tagsFrom_attributes {cs : List Char} (h : '>' ∉ cs) (name rest : List Char) :
    tagsFrom (.attributes name) (cs ++ '>' :: rest) = .ofName name :: tagsFrom .outside rest := by
  induction cs with
  | nil => rfl
  | cons c cs ih =>
    rw [List.mem_cons, not_or] at h
    rw [List.cons_append, tagsFrom, if_neg (Ne.symm h.1), ih h.2]

theorem tagsFrom_name {cs : List Char} (h : '>' ∉ cs) (read rest : List Char) :
    tagsFrom (.name read) (cs ++ '>' :: rest) =
      .ofName (read ++ cs.takeWhile (!·.isWhitespace)) :: tagsFrom .outside rest := by
  induction cs generalizing read with
  | nil => simp [tagsFrom]
  | cons c cs ih =>
    rw [List.mem_cons, not_or] at h
    rw [List.cons_append, tagsFrom, if_neg (Ne.symm h.1), List.takeWhile_cons]
    cases hblank : c.isWhitespace with
    | true => simpa using tagsFrom_attributes h.2 read rest
    | false => simpa using ih h.2 (read ++ [c])

/-- A text has some tags, and what follows is read on its own. -/
def Tagged (s : String) (tags : List ElementTag) : Prop :=
  ∀ rest, tagsFrom .outside (s.toList ++ rest) = tags ++ tagsFrom .outside rest

namespace Tagged

variable {s t : String} {xs ys : List ElementTag}

theorem tagsOf_eq (h : Tagged s xs) : tagsOf s = xs := by
  have hend := h []
  rwa [List.append_nil, tagsFrom, List.append_nil] at hend

theorem append (hs : Tagged s xs) (ht : Tagged t ys) : Tagged (s ++ t) (xs ++ ys) := by
  intro rest
  rw [String.toList_append, List.append_assoc, hs, ht, List.append_assoc]

theorem escaped (s : String) : Tagged (escape s) [] := by
  intro rest
  rw [Text.toList_escape]
  exact tagsFrom_outside (lt_not_mem_escapeChars s.toList) rest

theorem element (h : '>' ∉ s.toList) :
    Tagged ("<" ++ s ++ ">") [.ofName (s.toList.takeWhile (!·.isWhitespace))] := by
  intro rest
  have hchars : ("<" ++ s ++ ">").toList ++ rest = '<' :: (s.toList ++ '>' :: rest) := by simp
  rw [hchars]
  exact tagsFrom_name h [] rest

end Tagged

/-- No tag is open at the end of the text. -/
def Closed (s : String) : Prop := ∃ tags, Tagged s tags

theorem Closed.of_tagged {s : String} (h : Tagged s (tagsOf s)) : Closed s := ⟨_, h⟩

@[simp] theorem gt_not_mem_titleAttribute (title : String) :
    '>' ∉ (Rules.titleAttribute title).toList := by
  by_cases h : title = "" <;> simp [Rules.titleAttribute, Rules.attr, h]

@[simp] theorem gt_not_mem_toDigits (n : Nat) : '>' ∉ Nat.toDigits 10 n := fun h =>
  absurd (Nat.isDigit_of_mem_toDigits (by decide) (by decide) h) (by decide)

theorem tagged_linkStart (url title : String) :
    Tagged (Rules.story.linkStart url title) [⟨false, "a"⟩] := by
  let inner := "a" ++ Rules.attr "href" url ++ Rules.titleAttribute title ++
    if Rules.isExternal url then " target=\"_blank\" rel=\"noopener\"" else ""
  have hinner : '>' ∉ inner.toList := by
    cases hexternal : Rules.isExternal url <;> simp [inner, Rules.attr, hexternal]
  have helement : Rules.story.linkStart url title = "<" ++ inner ++ ">" := by
    apply String.toList_injective
    cases hexternal : Rules.isExternal url <;> simp [Rules.story, inner, hexternal]
  rw [helement]
  simpa [inner, Rules.attr, ElementTag.ofName] using Tagged.element hinner

theorem tagged_image (source alt title : String) :
    Tagged (Rules.story.image source alt title) [⟨false, "img"⟩] := by
  let inner := "img" ++ Rules.attr "src" source ++ Rules.titleAttribute title ++
    Rules.attr "alt" alt ++ " loading=\"lazy\""
  have hinner : '>' ∉ inner.toList := by simp [inner, Rules.attr]
  have helement : Rules.story.image source alt title = "<" ++ inner ++ ">" := by
    apply String.toList_injective
    simp [Rules.story, Rules.standard, Rules.storyImage, inner]
  rw [helement]
  simpa [inner, Rules.attr, ElementTag.ofName] using Tagged.element hinner

theorem tagged_codeSpan (code : String) :
    Tagged (Rules.story.codeSpan code) [⟨false, "code"⟩, ⟨true, "code"⟩] := by
  have hstart : Tagged "<code>" [⟨false, "code"⟩] := fun _ => rfl
  have hend : Tagged "</code>" [⟨true, "code"⟩] := fun _ => rfl
  exact (hstart.append (.escaped code)).append hend

theorem tagged_codeBlock (language : Option String) (content : String) :
    Tagged (Rules.story.codeBlock language content)
      [⟨false, "pre"⟩, ⟨false, "code"⟩, ⟨true, "code"⟩, ⟨true, "pre"⟩] := by
  have hstart : Tagged "<pre>" [⟨false, "pre"⟩] := fun _ => rfl
  have hend : Tagged "</code></pre>" [⟨true, "code"⟩, ⟨true, "pre"⟩] := fun _ => rfl
  let inner := "code" ++
    language.elim "" fun language => " class=\"language-" ++ escape language ++ "\""
  have hinner : '>' ∉ inner.toList := by cases language <;> simp [inner]
  have helement : Tagged ("<" ++ inner ++ ">") [⟨false, "code"⟩] := by
    cases language <;> simpa [inner, ElementTag.ofName] using Tagged.element hinner
  have hparts : Rules.story.codeBlock language content =
      "<pre>" ++ ("<" ++ inner ++ ">") ++ escape content ++ "</code></pre>" := by
    apply String.toList_injective
    cases language <;> simp [Rules.story, Rules.standard, Rules.storyCodeBlock, inner]
  rw [hparts]
  exact ((hstart.append helement).append (.escaped content)).append hend

end StoryPress.Html
