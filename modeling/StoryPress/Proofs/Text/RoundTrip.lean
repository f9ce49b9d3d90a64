import StoryPress.Proofs.Text.Escape
import Mathlib.Logic.Function.Basic

/-! `unescape` gives back every text from its escaped form, whatever references the text already
has, so no two texts have one escaped form. The other way round, a text without the four marks in
which every ampersand begins one of the five entities is the escaped form of what `unescape` reads
in it. -/
namespace StoryPress.Text

/-- The five entities, as they are written. -/
def entities : List String := ["&amp;", "&lt;", "&gt;", "&quot;", "&#x27;"]

theorem references_eq : references = entities.map String.toList := by decide

theorem unescapeChars_cons {c : Char} (h : c ≠ '&') (rest : List Char) :
    unescapeChars (c :: rest) = c :: unescapeChars rest := by
  rw [unescapeChars]
  all_goals
    intro _ hamp
    exact absurd hamp h

theorem unescapeChars_escapeChar_append (c : Char) (rest : List Char) :
    unescapeChars (escapeChar c ++ rest) = c :: unescapeChars rest := by
  unfold escapeChar
  split
  case h_6 hamp _ _ _ _ => exact unescapeChars_cons hamp rest
  all_goals rfl

/-- What follows an escaped text does not change how it is read, even if it looks like the rest of
a reference. -/
theorem unescapeChars_escapeChars_append (cs rest : List Char) :
    unescapeChars (escapeChars cs ++ rest) = cs ++ unescapeChars rest := by
  induction cs with
  | nil => rfl
  | cons c cs ih =>
    calc unescapeChars (escapeChars (c :: cs) ++ rest)
        = unescapeChars (escapeChar c ++ (escapeChars cs ++ rest)) := by
          rw [escapeChars, List.flatMap_cons, List.append_assoc, escapeChars]
      _ = c :: unescapeChars (escapeChars cs ++ rest) := unescapeChars_escapeChar_append c _
      _ = c :: (cs ++ unescapeChars rest) := by rw [ih]

theorem unescape_escape (s : String) : unescape (escape s) = s := by
  have hchars := unescapeChars_escapeChars_append s.toList []
  rw [List.append_nil, unescapeChars, List.append_nil] at hchars
  rw [unescape, toList_escape, hchars, String.ofList_toList]

theorem escape_append (s t : String) : escape (s ++ t) = escape s ++ escape t := by
  rw [escape, String.toList_append, escapeChars_append, String.ofList_append, escape, escape]

theorem IsEscaped.of_append {xs ys : List Char} (h : IsEscaped (xs ++ ys)) : IsEscaped ys where
  marks := fun mark hmark hmem => h.marks mark hmark (List.mem_append_right xs hmem)
  ampersands := by
    rintro before after rfl
    exact h.ampersands (xs ++ before) after (List.append_assoc xs before _).symm

/-- An escaped text begins with an escaped character: a reference, or a character of its own. -/
theorem IsEscaped.exists_head {c : Char} {cs : List Char} (h : IsEscaped (c :: cs)) :
    ∃ d rest, c :: cs = escapeChar d ++ rest := by
  by_cases hamp : c = '&'
  · subst hamp
    obtain ⟨reference, hmem, rest, hrest⟩ := h.ampersands [] cs rfl
    obtain ⟨d, -, rfl⟩ := List.mem_map.mp hmem
    exact ⟨d, rest, hrest.symm⟩
  · have hplain : c ∉ ['&', '<', '>', '"', '\''] := by
      rw [List.mem_cons, not_or]
      exact ⟨hamp, fun hmark => h.marks c hmark List.mem_cons_self⟩
    exact ⟨c, cs, by rw [escapeChar_of_not_mem hplain, List.singleton_append]⟩

theorem escapeChar_ne_nil (c : Char) : escapeChar c ≠ [] := by
  rcases escapeChar_cases c with ⟨body, hc, -, -⟩ | ⟨hc, -⟩
  all_goals simp [hc]

/-- Every escaped text is the escaped form of a text. -/
theorem IsEscaped.exists_source {cs : List Char} (h : IsEscaped cs) :
    ∃ source, escapeChars source = cs := by
  induction hlength : cs.length using Nat.strongRecOn generalizing cs with
  | ind n ih =>
    cases cs with
    | nil => exact ⟨[], rfl⟩
    | cons c cs =>
      obtain ⟨d, rest, hhead⟩ := h.exists_head
      rw [hhead] at h hlength ⊢
      have hshorter : rest.length < n := by
        have hpos := List.length_pos_iff.mpr (escapeChar_ne_nil d)
        rw [← hlength, List.length_append]
        omega
      obtain ⟨source, hsource⟩ := ih rest.length hshorter h.of_append rfl
      exact ⟨d :: source, by rw [← hsource]; rfl⟩

theorem escape_unescape {t : String} (h : IsEscaped t.toList) : escape (unescape t) = t := by
  obtain ⟨source, hsource⟩ := h.exists_source
  have ht : escape (String.ofList source) = t := by
    rw [escape, String.toList_ofList, hsource, String.ofList_toList]
  rw [← ht, unescape_escape]

/-- The escaped form of a text is the one escaped text that is read back as it. -/
theorem eq_escape_iff {s t : String} : t = escape s ↔ unescape t = s ∧ IsEscaped t.toList := by
  constructor
  · rintro rfl
    refine ⟨unescape_escape s, ?_⟩
    rw [toList_escape]
    exact isEscaped_escapeChars s.toList
  · rintro ⟨rfl, hescaped⟩
    exact (escape_unescape hescaped).symm

/-- Escaping loses nothing and is safe: reading the entities of the escaped form back gives the
text, parts of a text are escaped on their own, and the escaped form has none of the four marks and
no ampersand but those that begin an entity. -/
theorem escaping_lossless_and_safe :
    (∀ s, unescape (escape s) = s) ∧ Function.Injective escape ∧
      (∀ s t, escape (s ++ t) = escape s ++ escape t) ∧
      ∀ s, (∀ mark ∈ ['<', '>', '"', '\''], mark ∉ (escape s).toList) ∧
        ∀ before after, (escape s).toList = before ++ '&' :: after →
          ∃ entity ∈ entities, entity.toList <+: '&' :: after := by
  refine ⟨unescape_escape, Function.LeftInverse.injective unescape_escape, escape_append, ?_⟩
  intro s
  obtain ⟨-, hescaped⟩ := eq_escape_iff.mp (Eq.refl (escape s))
  refine ⟨hescaped.marks, ?_⟩
  intro before after hsplit
  obtain ⟨reference, hmem, hbegins⟩ := hescaped.ampersands before after hsplit
  rw [references_eq] at hmem
  obtain ⟨entity, hentity, rfl⟩ := List.mem_map.mp hmem
  exact ⟨entity, hentity, hbegins⟩

/-- A text that has an entity already, half of one and adjacent marks. -/
theorem entity_in_text_escaped_again :
    escape "&lt; &am<'\"" = "&amp;lt; &amp;am&lt;&#x27;&quot;" ∧
      unescape "&amp;lt; &amp;am&lt;&#x27;&quot;" = "&lt; &am<'\"" ∧
      (∃ entity ∈ entities, entity.toList <+: '&' :: "amp;am&lt;&#x27;&quot;".toList) ∧
      escape "&lt; &am<'\"" ≠ escape "< &am<'\"" := by
  obtain ⟨hread, hinjective, -, hsafe⟩ := escaping_lossless_and_safe
  have hwritten : escape "&lt; &am<'\"" = "&amp;lt; &amp;am&lt;&#x27;&quot;" := by decide +kernel
  refine ⟨hwritten, ?_, ?_, ?_⟩
  · rw [← hwritten]
    exact hread _
  · have hsplit : "&amp;lt; &amp;am&lt;&#x27;&quot;".toList =
        "&amp;lt; ".toList ++ '&' :: "amp;am&lt;&#x27;&quot;".toList := by decide +kernel
    exact (hsafe "&lt; &am<'\"").2 _ _ ((congrArg String.toList hwritten).trans hsplit)
  · exact hinjective.ne (by decide +kernel)

end StoryPress.Text
