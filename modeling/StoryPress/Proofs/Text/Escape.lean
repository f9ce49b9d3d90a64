import StoryPress.Text.Escape
import Mathlib.Data.List.Infix

namespace StoryPress.Text

/-- The references that escaping writes. -/
def references : List (List Char) := ['&', '<', '>', '"', '\''].map escapeChar

/-- Every ampersand begins a reference. -/
def AmpersandsEscaped (cs : List Char) : Prop :=
  ∀ before after, cs = before ++ '&' :: after → ∃ reference ∈ references, reference <+: '&' :: after

structure IsEscaped (cs : List Char) : Prop where
  marks : ∀ c ∈ ['<', '>', '"', '\''], c ∉ cs
  ampersands : AmpersandsEscaped cs

theorem AmpersandsEscaped.append {xs ys : List Char} (hx : AmpersandsEscaped xs)
    (hy : AmpersandsEscaped ys) : AmpersandsEscaped (xs ++ ys) := by
  intro before after h
  rcases List.append_eq_append_iff.mp h with ⟨t, rfl, hys⟩ | ⟨t, rfl, hafter⟩
  · exact hy t after hys
  · cases t with
    | nil => exact hy [] after (by simpa using hafter.symm)
    | cons c t =>
      obtain ⟨rfl, rfl⟩ := List.cons.inj hafter
      obtain ⟨reference, hmem, hbegins⟩ := hx before t rfl
      exact ⟨reference, hmem, hbegins.trans (List.prefix_append ('&' :: t) ys)⟩

theorem ampersandsEscaped_reference {body : List Char} (h : '&' :: body ∈ references)
    (hbody : '&' ∉ body) : AmpersandsEscaped ('&' :: body) := by
  intro before after hsplit
  cases before with
  | nil =>
    refine ⟨_, h, ?_⟩
    rw [hsplit, List.nil_append]
  | cons c before =>
    obtain ⟨-, rfl⟩ := List.cons.inj hsplit
    exact absurd (by simp) hbody

/-- A character is escaped by a reference, or stays as it is. -/
theorem escapeChar_cases (c : Char) :
    (∃ body, escapeChar c = '&' :: body ∧ '&' :: body ∈ references ∧ '&' ∉ body) ∨
      (escapeChar c = [c] ∧ c ∉ ['&', '<', '>', '"', '\'']) := by
  unfold escapeChar
  split
  case h_6 hamp hlt hgt hquote hsingle =>
    refine .inr ⟨rfl, ?_⟩
    simpa using ⟨hamp, hlt, hgt, hquote, hsingle⟩
  all_goals exact .inl ⟨_, rfl, by decide, by decide⟩

theorem ampersandsEscaped_escapeChar (c : Char) : AmpersandsEscaped (escapeChar c) := by
  rcases escapeChar_cases c with ⟨body, hc, hmem, hbody⟩ | ⟨hc, hplain⟩
  · rw [hc]
    exact ampersandsEscaped_reference hmem hbody
  · intro before after h
    have hamp : '&' ∈ escapeChar c := by
      rw [h]
      simp
    rw [hc, List.mem_singleton] at hamp
    exact absurd (hamp ▸ by simp) hplain

theorem not_mem_escapeChar {mark : Char} (h : mark ∈ ['<', '>', '"', '\'']) (c : Char) :
    mark ∉ escapeChar c := by
  have hreferences : (references.all fun reference =>
      ['<', '>', '"', '\''].all fun mark => !reference.contains mark) = true := by decide
  rcases escapeChar_cases c with ⟨body, hc, hmem, -⟩ | ⟨hc, hplain⟩
  · have hmark := List.all_eq_true.mp (List.all_eq_true.mp hreferences _ hmem) mark h
    rw [hc]
    simpa using hmark
  · rw [hc, List.mem_singleton]
    rintro rfl
    exact hplain (List.mem_cons_of_mem _ h)

theorem isEscaped_escapeChars (cs : List Char) : IsEscaped (escapeChars cs) where
  marks := by
    intro mark hmark hmem
    obtain ⟨c, -, hc⟩ := List.mem_flatMap.mp hmem
    exact not_mem_escapeChar hmark c hc
  ampersands := by
    induction cs with
    | nil =>
      intro before after h
      simp [escapeChars] at h
    | cons c cs ih => exact (ampersandsEscaped_escapeChar c).append ih

theorem escapeChar_of_not_mem {c : Char} (h : c ∉ ['&', '<', '>', '"', '\'']) :
    escapeChar c = [c] := by
  unfold escapeChar
  split
  case h_6 => rfl
  all_goals exact absurd (by decide) h

theorem escapeChars_of_not_mem {cs : List Char} (h : ∀ c ∈ ['&', '<', '>', '"', '\''], c ∉ cs) :
    escapeChars cs = cs := by
  have hplain : ∀ c ∈ cs, escapeChar c = [c] := fun c hc =>
    escapeChar_of_not_mem fun hmem => h c hmem hc
  rw [escapeChars, List.flatMap_congr hplain, List.flatMap_singleton']

/-- A text without ampersands that starts an escaped text starts its source. -/
theorem exists_of_escapeChars_append {cs xs ys : List Char} (hxs : '&' ∉ xs)
    (h : escapeChars cs = xs ++ ys) : ∃ zs, cs = xs ++ zs ∧ escapeChars zs = ys := by
  induction xs generalizing cs with
  | nil => exact ⟨cs, rfl, h⟩
  | cons x xs ih =>
    rw [List.mem_cons, not_or] at hxs
    cases cs with
    | nil => cases h
    | cons c cs =>
      rw [escapeChars, List.flatMap_cons] at h
      rcases escapeChar_cases c with ⟨body, hc, -, -⟩ | ⟨hc, -⟩
      · rw [hc] at h
        exact absurd (List.cons.inj h).1 hxs.1
      · rw [hc] at h
        obtain ⟨rfl, hrest⟩ := List.cons.inj h
        obtain ⟨zs, rfl, hzs⟩ := ih hxs.2 hrest
        exact ⟨zs, rfl, hzs⟩

/-- A character of an escaped text that no reference has stands in the source. -/
theorem exists_of_escapeChars_append_cons {c : Char} (hc : ∀ reference ∈ references, c ∉ reference)
    {cs before after : List Char} (h : escapeChars cs = before ++ c :: after) :
    ∃ xs ys, cs = xs ++ c :: ys ∧ escapeChars xs = before ∧ escapeChars ys = after := by
  induction cs generalizing before with
  | nil => simp [escapeChars] at h
  | cons d cs ih =>
    rw [escapeChars, List.flatMap_cons] at h
    rcases List.append_eq_append_iff.mp h with ⟨t, rfl, hcs⟩ | ⟨t, hd, hafter⟩
    · obtain ⟨xs, ys, rfl, rfl, rfl⟩ := ih hcs
      exact ⟨d :: xs, ys, rfl, rfl, rfl⟩
    · cases t with
      | nil =>
        obtain ⟨xs, ys, rfl, hxs, rfl⟩ := @ih [] hafter.symm
        refine ⟨d :: xs, ys, rfl, ?_, rfl⟩
        rw [List.append_nil] at hd
        rw [← hd, ← List.append_nil (escapeChar d), ← hxs]
        rfl
      | cons e t =>
        obtain ⟨rfl, rfl⟩ := List.cons.inj hafter
        rcases escapeChar_cases d with ⟨body, hbody, hmem, -⟩ | ⟨hplain, -⟩
        · rw [hbody] at hd
          exact absurd (by rw [hd]; simp) (hc _ hmem)
        · rw [hplain] at hd
          obtain ⟨rfl, hd⟩ | ⟨-, hd⟩ := List.singleton_eq_append_iff.mp hd
          · obtain ⟨rfl, rfl⟩ := List.cons.inj hd
            exact ⟨[], cs, rfl, rfl, rfl⟩
          · cases hd

end StoryPress.Text
