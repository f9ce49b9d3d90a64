import StoryPress.Text.Fold

namespace StoryPress.Text

def longS : Char := '\u017f'

def kelvin : Char := '\u212a'

/-- Folds of the table that start beyond ASCII lead beyond ASCII, two of them apart. -/
theorem commonFolds_wide : ∀ fold ∈ commonFolds, fold.2.1 < 128 ∨
    128 ≤ (fold.1 : Int) + fold.2.2.2 ∨
    (fold.1 = fold.2.1 ∧ (fold.1 = longS.toNat ∨ fold.1 = kelvin.toNat)) := by
  decide +kernel

theorem simpleFolds_wide : ∀ fold ∈ simpleFolds, 128 ≤ fold.2 := by
  decide +kernel

theorem commonFold?_wide {code folded : Nat} (h : commonFold? code = some folded)
    (hcode : 128 ≤ code) :
    128 ≤ folded ∨ code = longS.toNat ∨ code = kelvin.toNat := by
  obtain ⟨⟨first, last, step, distance⟩, hfind, rfl⟩ := Option.map_eq_some_iff.mp h
  have hmem := List.mem_of_find?_eq_some hfind
  have hrange := List.find?_some hfind
  simp only [Bool.and_eq_true, decide_eq_true_eq] at hrange
  rcases commonFolds_wide _ hmem with hlast | hwide | ⟨hsame, hcases⟩
  · simp only at hlast
    omega
  · simp only at hwide ⊢
    left
    omega
  · simp only at hsame hcases
    right
    have hfirst : code = first := by omega
    rcases hcases with hcase | hcase
    · exact .inl (hfirst.trans hcase)
    · exact .inr (hfirst.trans hcase)

/-- A code point that is no character gives the null character. -/
theorem wide_or_null_ofNat {code : Nat} (h : 128 ≤ code) :
    128 ≤ (Char.ofNat code).toNat ∨ (Char.ofNat code).toNat = 0 := by
  by_cases hvalid : code.isValidChar
  · have hchar : Char.ofNat code = Char.ofNatAux code hvalid := dif_pos hvalid
    rw [hchar]
    exact .inl h
  · have hchar : Char.ofNat code = '\x00' := dif_neg hvalid
    rw [hchar]
    exact .inr rfl

theorem eq_of_foldSimple_ascii {c : Char} (hwide : 128 ≤ c.toNat) (hpos : 0 < (foldSimple c).toNat)
    (hascii : (foldSimple c).toNat < 128) : c = longS ∨ c = kelvin := by
  rw [foldSimple, if_neg (Nat.not_lt.mpr hwide)] at hpos hascii
  cases hsimple : simpleFolds.lookup c.toNat with
  | some code =>
    simp only [hsimple] at hpos hascii
    obtain ⟨before, after, hlist, -⟩ := List.lookup_eq_some_iff.mp hsimple
    have hcode : 128 ≤ code := simpleFolds_wide (c.toNat, code) (by simp [hlist])
    have hfar := wide_or_null_ofNat hcode
    omega
  | none =>
    simp only [hsimple] at hpos hascii
    cases hcommon : commonFold? c.toNat with
    | none =>
      simp only [hcommon, Option.map_none, Option.getD_none] at hascii
      omega
    | some folded =>
      simp only [hcommon, Option.map_some, Option.getD_some] at hpos hascii
      rcases commonFold?_wide hcommon hwide with hfolded | hlong | hkelvin
      · have hfar := wide_or_null_ofNat hfolded
        omega
      · exact .inl (Char.toNat_inj.mp hlong)
      · exact .inr (Char.toNat_inj.mp hkelvin)

end StoryPress.Text
