import StoryPress.Number.Double
import Mathlib.Algebra.Group.Nat.Defs

namespace StoryPress.Number.Double

variable {num den exponent : Nat}

/-- The quotient is rounded to a multiple of two to this power. -/
def spacing (num den : Nat) : Nat := (num / den).log2 + 1 - 53

/-- The significant digits of a quotient, with the others cut off. -/
def significand (num den : Nat) : Nat := num / (den * 2 ^ spacing num den)

/-- What is cut off is more than a half, or a half beside an odd digit. -/
def RoundsUp (num den : Nat) : Prop :=
  let step := den * 2 ^ spacing num den
  step < 2 * (num % step) ∨ step = 2 * (num % step) ∧ significand num den % 2 = 1

theorem roundQuotient_eq (num den : Nat) [Decidable (RoundsUp num den)] :
    roundQuotient num den =
      (if RoundsUp num den then significand num den + 1 else significand num den) *
        2 ^ spacing num den := by
  simp only [roundQuotient, RoundsUp, significand, spacing, Nat.shiftLeft_eq, Bool.or_eq_true,
    Bool.and_eq_true, decide_eq_true_eq, beq_iff_eq]
  congr

theorem roundQuotient_up (h : RoundsUp num den) :
    roundQuotient num den = (significand num den + 1) * 2 ^ spacing num den := by
  classical
  rw [roundQuotient_eq, if_pos h]

theorem roundQuotient_down (h : ¬ RoundsUp num den) :
    roundQuotient num den = significand num den * 2 ^ spacing num den := by
  classical
  rw [roundQuotient_eq, if_neg h]

theorem le_roundQuotient (num den : Nat) :
    significand num den * 2 ^ spacing num den ≤ roundQuotient num den := by
  by_cases h : RoundsUp num den
  · rw [roundQuotient_up h]
    exact Nat.mul_le_mul_right _ (Nat.le_succ _)
  · exact Nat.le_of_eq (roundQuotient_down h).symm

theorem roundQuotient_le (num den : Nat) :
    roundQuotient num den ≤ (significand num den + 1) * 2 ^ spacing num den := by
  by_cases h : RoundsUp num den
  · exact Nat.le_of_eq (roundQuotient_up h)
  · rw [roundQuotient_down h]
    exact Nat.mul_le_mul_right _ (Nat.le_succ _)

theorem significand_eq (num den : Nat) :
    significand num den = num / den / 2 ^ spacing num den :=
  (Nat.div_div_eq_div_mul num den _).symm

theorem significand_lt (num den : Nat) : significand num den < 2 ^ 53 := by
  rw [significand_eq, Nat.div_lt_iff_lt_mul (Nat.two_pow_pos _), ← Nat.pow_add]
  have hlog := Nat.lt_log2_self (n := num / den)
  have hpow : 2 ^ ((num / den).log2 + 1) ≤ 2 ^ (53 + spacing num den) := by
    apply Nat.pow_le_pow_right (by decide)
    rw [spacing]
    omega
  exact Nat.lt_of_lt_of_le hlog hpow

theorem log2_eq_of_le (h : 2 ^ 52 ≤ num / den) : (num / den).log2 = 52 + spacing num den := by
  have hne : num / den ≠ 0 := Nat.ne_of_gt (Nat.lt_of_lt_of_le (Nat.two_pow_pos 52) h)
  have hlog : 52 ≤ (num / den).log2 := (Nat.le_log2 hne).mpr h
  rw [spacing]
  omega

theorem roundQuotient_le_of_lt (hexponent : 53 ≤ exponent) (h : num / den < 2 ^ exponent) :
    roundQuotient num den ≤ 2 ^ exponent := by
  have hspacing : 53 + spacing num den ≤ exponent := by
    rw [spacing]
    by_cases hzero : num / den = 0
    · rw [hzero, Nat.log2_zero]
      omega
    · have hlog : (num / den).log2 < exponent := (Nat.log2_lt hzero).mpr h
      omega
  calc roundQuotient num den
      ≤ (significand num den + 1) * 2 ^ spacing num den := roundQuotient_le num den
    _ ≤ 2 ^ 53 * 2 ^ spacing num den := Nat.mul_le_mul_right _ (significand_lt num den)
    _ = 2 ^ (53 + spacing num den) := (Nat.pow_add 2 53 _).symm
    _ ≤ 2 ^ exponent := Nat.pow_le_pow_right (by decide) hspacing

theorem le_roundQuotient_of_le (hexponent : 53 ≤ exponent) (h : 2 ^ exponent ≤ num / den) :
    2 ^ exponent ≤ roundQuotient num den := by
  have hne : num / den ≠ 0 := Nat.ne_of_gt (Nat.lt_of_lt_of_le (Nat.two_pow_pos _) h)
  have hlog : exponent ≤ (num / den).log2 := (Nat.le_log2 hne).mpr h
  have hlarge : 2 ^ 52 ≤ num / den :=
    Nat.le_trans (Nat.pow_le_pow_right (by decide) (by omega)) h
  have hsplit := log2_eq_of_le hlarge
  have hdigits : 2 ^ 52 ≤ significand num den := by
    rw [significand_eq, Nat.le_div_iff_mul_le (Nat.two_pow_pos _), ← Nat.pow_add, ← hsplit]
    exact Nat.log2_self_le hne
  calc 2 ^ exponent
      ≤ 2 ^ (52 + spacing num den) := Nat.pow_le_pow_right (by decide) (hsplit ▸ hlog)
    _ = 2 ^ 52 * 2 ^ spacing num den := Nat.pow_add 2 52 _
    _ ≤ significand num den * 2 ^ spacing num den := Nat.mul_le_mul_right _ hdigits
    _ ≤ roundQuotient num den := le_roundQuotient num den

theorem num_eq (num den : Nat) :
    significand num den * (den * 2 ^ spacing num den) + num % (den * 2 ^ spacing num den) = num := by
  rw [Nat.mul_comm]
  exact Nat.div_add_mod num _

theorem roundsUp_iff_of_odd (h : significand num den % 2 = 1) :
    RoundsUp num den ↔
      den * 2 ^ spacing num den ≤ 2 * (num % (den * 2 ^ spacing num den)) := by
  rw [RoundsUp, h]
  constructor
  · rintro (hmore | ⟨heven, -⟩)
    · exact Nat.le_of_lt hmore
    · exact Nat.le_of_eq heven
  · intro hle
    rcases Nat.lt_or_eq_of_le hle with hmore | heven
    · exact .inl hmore
    · exact .inr ⟨heven, rfl⟩

/-- Between two powers of two, the greater one is reached by rounding up the greatest significand,
so from the middle between the power and the last multiple before it. -/
theorem pow_le_roundQuotient_of_spacing {shift : Nat} (hden : 0 < den)
    (hspacing : spacing num den = shift + 1) :
    2 ^ (54 + shift) ≤ roundQuotient num den ↔ (2 ^ 54 - 1) * (den * 2 ^ shift) ≤ num := by
  have hpower : 2 ^ (54 + shift) = 2 ^ 53 * 2 ^ spacing num den := by
    rw [hspacing, ← Nat.pow_add]
    congr 1
    omega
  have hstep : den * 2 ^ spacing num den = 2 * (den * 2 ^ shift) := by
    rw [hspacing, Nat.pow_succ, ← Nat.mul_assoc, Nat.mul_comm]
  have hnum := num_eq num den
  have hrest : num % (den * 2 ^ spacing num den) < den * 2 ^ spacing num den :=
    Nat.mod_lt num (Nat.mul_pos hden (Nat.two_pow_pos _))
  have hpos : 0 < 2 ^ spacing num den := Nat.two_pow_pos _
  have hdigits := significand_lt num den
  rw [hpower]
  by_cases hlast : significand num den = 2 ^ 53 - 1
  · have hodd : significand num den % 2 = 1 := by omega
    have hup := roundsUp_iff_of_odd hodd
    rw [hlast] at hnum
    by_cases h : RoundsUp num den
    · have hhalf := hup.mp h
      rw [roundQuotient_up h, hlast]
      omega
    · have hhalf := mt hup.mpr h
      rw [roundQuotient_down h, hlast]
      omega
  · have hround := roundQuotient_le num den
    have hcut : significand num den + 1 ≤ 2 ^ 53 - 1 := by omega
    have hleft := Nat.mul_le_mul_right (2 ^ spacing num den) hcut
    have hright := Nat.mul_le_mul_right (den * 2 ^ spacing num den) hcut
    rw [Nat.add_mul, Nat.one_mul] at hright
    omega

/-- The least number that is rounded to a power of two or to more. -/
theorem pow_le_roundQuotient_iff (shift : Nat) (hden : 0 < den) (num : Nat) :
    2 ^ (54 + shift) ≤ roundQuotient num den ↔ (2 ^ 54 - 1) * (den * 2 ^ shift) ≤ num := by
  have hpow (n : Nat) : 2 ^ (n + shift) * den = 2 ^ n * (den * 2 ^ shift) := by
    rw [Nat.pow_add, Nat.mul_assoc, Nat.mul_comm den]
  rcases Nat.lt_or_ge (num / den) (2 ^ (53 + shift)) with hsmall | hlarge
  · have hround := roundQuotient_le_of_lt (by omega) hsmall
    have hpower : 2 ^ (53 + shift) < 2 ^ (54 + shift) :=
      Nat.pow_lt_pow_right (by decide) (by omega)
    have hnum := (Nat.div_lt_iff_lt_mul hden).mp hsmall
    rw [hpow] at hnum
    omega
  rcases Nat.lt_or_ge (num / den) (2 ^ (54 + shift)) with hless | hgreat
  · have hne : num / den ≠ 0 := Nat.ne_of_gt (Nat.lt_of_lt_of_le (Nat.two_pow_pos _) hlarge)
    have hlower : 53 + shift ≤ (num / den).log2 := (Nat.le_log2 hne).mpr hlarge
    have hupper : (num / den).log2 < 54 + shift := (Nat.log2_lt hne).mpr hless
    apply pow_le_roundQuotient_of_spacing hden
    rw [spacing]
    omega
  · have hround := le_roundQuotient_of_le (by omega) hgreat
    have hnum := (Nat.le_div_iff_mul_le hden).mp hgreat
    rw [hpow] at hnum
    omega

/-- The same in a unit of which so many powers of two make one. -/
theorem pow_le_roundQuotient_mul_iff (shift digits : Nat) (hden : 0 < den) (num : Nat) :
    2 ^ (54 + (shift + digits)) ≤ roundQuotient (num * 2 ^ digits) den ↔
      den * ((2 ^ 54 - 1) * 2 ^ shift) ≤ num := by
  have hsplit : (2 ^ 54 - 1) * (den * 2 ^ (shift + digits)) =
      den * ((2 ^ 54 - 1) * 2 ^ shift) * 2 ^ digits := by
    rw [Nat.pow_add, Nat.mul_left_comm, Nat.mul_assoc den, Nat.mul_assoc (2 ^ 54 - 1)]
  rw [pow_le_roundQuotient_iff _ hden, hsplit]
  exact Nat.mul_le_mul_right_iff (Nat.two_pow_pos digits)

/-- The middle between the greatest double and the power of two after it, to which it is rounded. -/
def ceiling : Nat := (2 ^ 54 - 1) <<< 970

/-- The same with shifts, for exponents that are too great to be evaluated. -/
theorem shiftLeft_le_roundQuotient_iff (shift digits : Nat) (hden : 0 < den) (num : Nat) :
    1 <<< (54 + (shift + digits)) ≤ roundQuotient (num * 1 <<< digits) den ↔
      den * (2 ^ 54 - 1) <<< shift ≤ num := by
  rw [Nat.one_shiftLeft, Nat.one_shiftLeft, Nat.shiftLeft_eq]
  exact pow_le_roundQuotient_mul_iff shift digits hden num

theorem limit_le_roundQuotient_iff (hden : 0 < den) (num : Nat) :
    limit ≤ roundQuotient (num * one) den ↔ den * ceiling ≤ num :=
  shiftLeft_le_roundQuotient_iff 970 1074 hden num

theorem ofQuotient?_eq (negative : Bool) (hden : 0 < den) :
    ofQuotient? negative num den =
      if den * ceiling ≤ num then none else some ⟨negative, roundQuotient (num * one) den⟩ := by
  have hiff := limit_le_roundQuotient_iff hden num
  rw [ofQuotient?, ofUnits?]
  by_cases h : den * ceiling ≤ num
  · rw [if_pos h, if_neg (Nat.not_lt.mpr (hiff.mpr h))]
  · rw [if_neg h, if_pos (Nat.lt_of_not_le fun hle => h (hiff.mp hle))]

end StoryPress.Number.Double
