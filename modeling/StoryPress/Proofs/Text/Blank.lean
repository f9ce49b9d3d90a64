import StoryPress.Text.Blank
import StoryPress.Text.Word
import Mathlib.Data.List.DropRight

namespace StoryPress.Text

/-- Neither the first character nor the last is blank. -/
def Trimmed (cs : List Char) : Prop :=
  (∀ c ∈ cs.head?, isBlank c = false) ∧ ∀ c ∈ cs.getLast?, isBlank c = false

def AllBlank (cs : List Char) : Prop := ∀ c ∈ cs, isBlank c = true

instance (cs : List Char) : Decidable (AllBlank cs) :=
  inferInstanceAs (Decidable (∀ c ∈ cs, isBlank c = true))

theorem dropWhile_of_head? {cs : List Char} (h : ∀ c ∈ cs.head?, isBlank c = false) :
    cs.dropWhile isBlank = cs := by
  cases cs with
  | nil => rfl
  | cons c cs =>
    have hc : isBlank c = false := h c rfl
    rw [List.dropWhile_cons_of_neg (by simp [hc])]

theorem dropWhile_blanks {blanks rest : List Char} (h : AllBlank blanks)
    (hrest : ∀ c ∈ rest.head?, isBlank c = false) :
    (blanks ++ rest).dropWhile isBlank = rest := by
  rw [List.dropWhile_append_of_pos h, dropWhile_of_head? hrest]

theorem takeWhile_blanks {blanks rest : List Char} (h : AllBlank blanks)
    (hrest : ∀ c ∈ rest.head?, isBlank c = false) :
    (blanks ++ rest).takeWhile isBlank = blanks := by
  have hnone : rest.takeWhile isBlank = [] := by
    cases rest with
    | nil => rfl
    | cons c rest => simp [hrest c rfl]
  rw [List.takeWhile_append_of_pos h, hnone, List.append_nil]

theorem allBlank_takeWhile (cs : List Char) : AllBlank (cs.takeWhile isBlank) :=
  fun _ hc => List.mem_takeWhile_imp hc

theorem trimChars_append {lead body trail : List Char} (hlead : AllBlank lead)
    (htrail : AllBlank trail) (h : Trimmed body) : trimChars (lead ++ body ++ trail) = body := by
  have hreverse : AllBlank trail.reverse := fun c hc => htrail c (List.mem_reverse.mp hc)
  rw [trimChars, List.append_assoc, List.dropWhile_append_of_pos hlead]
  cases body with
  | nil =>
    rw [List.nil_append, List.dropWhile_eq_nil_iff.mpr htrail]
    rfl
  | cons c body =>
    have hhead : (c :: body ++ trail).dropWhile isBlank = c :: body ++ trail :=
      dropWhile_of_head? h.1
    have hlast : ∀ d ∈ (c :: body).reverse.head?, isBlank d = false := by
      rw [List.head?_reverse]
      exact h.2
    rw [hhead, List.reverse_append, dropWhile_blanks hreverse hlast, List.reverse_reverse]

theorem trimChars_eq (cs : List Char) :
    trimChars cs = (cs.dropWhile isBlank).rdropWhile isBlank := rfl

theorem exists_trim (cs : List Char) :
    ∃ lead trail, cs = lead ++ trimChars cs ++ trail ∧ AllBlank lead ∧ AllBlank trail := by
  refine ⟨cs.takeWhile isBlank, (cs.dropWhile isBlank).rtakeWhile isBlank, ?_,
    allBlank_takeWhile cs, ?_⟩
  · rw [trimChars_eq, List.append_assoc, List.rdropWhile_append_rtakeWhile,
      List.takeWhile_append_dropWhile]
  · intro c hc
    exact List.mem_rtakeWhile_imp hc

theorem trimChars_eq_nil_iff {cs : List Char} : trimChars cs = [] ↔ AllBlank cs := by
  constructor
  · intro hnil
    obtain ⟨lead, trail, hcs, hlead, htrail⟩ := exists_trim cs
    rw [hnil, List.append_nil] at hcs
    intro c hc
    rw [hcs, List.mem_append] at hc
    exact hc.elim (hlead c) (htrail c)
  · intro hblank
    rw [trimChars, List.dropWhile_eq_nil_iff.mpr hblank]
    rfl

theorem head?_dropWhile_isBlank (cs : List Char) :
    ∀ c ∈ (cs.dropWhile isBlank).head?, isBlank c = false := by
  intro c hc
  have hnot := List.head?_dropWhile_not isBlank cs
  rw [hc] at hnot
  exact hnot

theorem trimmed_trimChars (cs : List Char) : Trimmed (trimChars cs) := by
  constructor
  · -- Trimming the end keeps the first character of what is left.
    intro c hc
    obtain ⟨rest, hrest⟩ := List.rdropWhile_prefix isBlank (cs.dropWhile isBlank)
    refine head?_dropWhile_isBlank cs c ?_
    rw [← hrest, List.head?_append, ← trimChars_eq, Option.mem_def.mp hc]
    rfl
  · rw [trimChars, List.getLast?_reverse]
    exact head?_dropWhile_isBlank _

theorem toNat_lt_of_isAlpha {c : Char} (h : c.isAlpha = true) : c.toNat < 128 := by
  have hletter : (decide ('A'.val ≤ c.val ∧ c.val ≤ 'Z'.val) ||
      (decide ('a'.val ≤ c.val) && decide (c.val ≤ 'z'.val))) = true := h
  have htoNat : c.toNat = c.val.toNat := rfl
  simp only [Bool.or_eq_true, Bool.and_eq_true, decide_eq_true_eq] at hletter
  rcases hletter with ⟨-, hle⟩ | ⟨-, hle⟩
  · exact htoNat ▸ Nat.lt_of_le_of_lt (UInt32.le_iff_toNat_le.mp hle) (by decide)
  · exact htoNat ▸ Nat.lt_of_le_of_lt (UInt32.le_iff_toNat_le.mp hle) (by decide)

/-- The code points of blanks. -/
def blankPoints : List Nat :=
  List.range' 9 5 ++ [0x20, 0x85, 0xa0, 0x1680] ++ List.range' 0x2000 11 ++
    [0x2028, 0x2029, 0x202f, 0x205f, 0x3000]

theorem mem_blankPoints {c : Char} (h : isBlank c = true) : c.toNat ∈ blankPoints := by
  have hbetween : ∀ {lo hi : Char}, lo ≤ c → c ≤ hi → lo.toNat ≤ c.toNat ∧ c.toNat ≤ hi.toNat :=
    fun hlo hhi => ⟨UInt32.le_iff_toNat_le.mp hlo, UInt32.le_iff_toNat_le.mp hhi⟩
  simp only [isBlank, Bool.or_eq_true, Bool.and_eq_true, decide_eq_true_eq, beq_iff_eq] at h
  simp only [blankPoints, List.mem_append, List.mem_range'_1]
  rcases h with (((((((((⟨hlo, hhi⟩ | rfl) | rfl) | rfl) | rfl) | ⟨hlo, hhi⟩) | rfl) | rfl) | rfl) |
    rfl) | rfl
  · obtain ⟨hlo, hhi⟩ : 9 ≤ c.toNat ∧ c.toNat ≤ 13 := hbetween hlo hhi
    exact .inl (.inl (.inl ⟨hlo, Nat.lt_succ_of_le hhi⟩))
  · decide
  · decide
  · decide
  · decide
  · obtain ⟨hlo, hhi⟩ : 0x2000 ≤ c.toNat ∧ c.toNat ≤ 0x200a := hbetween hlo hhi
    exact .inl (.inr ⟨hlo, Nat.lt_succ_of_le hhi⟩)
  all_goals decide

theorem isAlphanum_of_isBlank {c : Char} (h : isBlank c = true) : c.isAlphanum = false := by
  have hpoints : ∀ n ∈ blankPoints, (Char.ofNat n).isAlphanum = false := by decide
  have hletter := hpoints c.toNat (mem_blankPoints h)
  rwa [Char.ofNat_toNat] at hletter

theorem isWord_of_isBlank {c : Char} (h : isBlank c = true) : isWord c = false := by
  have hpoints : ∀ n ∈ blankPoints, isWord (Char.ofNat n) = false := by decide +kernel
  have hword := hpoints c.toNat (mem_blankPoints h)
  rwa [Char.ofNat_toNat] at hword

end StoryPress.Text
