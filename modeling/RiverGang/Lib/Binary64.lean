import Mathlib.Data.Int.Log
import Mathlib.Data.Rat.Floor
import Mathlib.Tactic.Linarith
import Mathlib.Tactic.NormNum

/-!
# Rounding to binary64

The binary64 number nearest to a nonnegative rational, ties to the even significand. The exponent is not bounded here, so it
is that of zero and of what is neither too small nor too large for a normal number.

* `round_error`: rounding is off by one part in `2 ^ 53` at most.
-/

namespace Binary64

/-- The nearest integer, the even one of two. -/
def roundHalfEven (x : ℚ) : ℤ :=
  if Int.fract x < 1 / 2 then ⌊x⌋
  else if 1 / 2 < Int.fract x then ⌊x⌋ + 1
  else if ⌊x⌋ % 2 = 0 then ⌊x⌋
  else ⌊x⌋ + 1

/-- What the last of the 53 bits of the significand counts. -/
def ulp (x : ℚ) : ℚ := 2 ^ (Int.log 2 x - 52)

def round (x : ℚ) : ℚ := roundHalfEven (x / ulp x) * ulp x

-- not the tenth
example : round (1 / 10) = 3602879701896397 / 36028797018963968 := by decide +kernel

theorem abs_roundHalfEven_sub_le (x : ℚ) : |roundHalfEven x - x| ≤ 1 / 2 := by
  have hx : (⌊x⌋ : ℚ) + Int.fract x = x := Int.floor_add_fract x
  have hlt : Int.fract x < 1 := Int.fract_lt_one x
  have hnonneg : 0 ≤ Int.fract x := Int.fract_nonneg x
  have hdown : Int.fract x ≤ 1 / 2 → |(⌊x⌋ : ℚ) - x| ≤ 1 / 2 := fun h => by
    rw [abs_le]
    constructor <;> linarith
  have hup : 1 / 2 ≤ Int.fract x → |((⌊x⌋ + 1 : ℤ) : ℚ) - x| ≤ 1 / 2 := fun h => by
    push_cast
    rw [abs_le]
    constructor <;> linarith
  unfold roundHalfEven
  split
  · rename_i h
    exact hdown h.le
  · rename_i hle
    split
    · rename_i h
      exact hup h.le
    · rename_i hge
      split
      · exact hdown (not_lt.1 hge)
      · exact hup (not_lt.1 hle)

theorem ulp_pos (x : ℚ) : 0 < ulp x := zpow_pos (by norm_num) _

/-- The significand of a positive number has its 53 bits. -/
theorem ulp_mul_le {x : ℚ} (h : 0 < x) : ulp x * 2 ^ 52 ≤ x := by
  have hlog : (2 : ℚ) ^ Int.log 2 x ≤ x := by exact_mod_cast Int.zpow_log_le_self (b := 2) (by norm_num) h
  have hpow : ulp x * 2 ^ 52 = (2 : ℚ) ^ Int.log 2 x := by
    rw [ulp, zpow_sub₀ (by norm_num)]
    norm_num
  rw [hpow]
  exact hlog

/-- **The error of rounding.** -/
theorem round_error {x : ℚ} (h : 0 ≤ x) : |round x - x| ≤ x / 2 ^ 53 := by
  rcases h.eq_or_lt with rfl | hpos
  · simp [round, roundHalfEven]
  · have hulp := ulp_pos x
    have hdiff : round x - x = (roundHalfEven (x / ulp x) - x / ulp x) * ulp x := by
      rw [round, sub_mul, div_mul_cancel₀ x hulp.ne']
    have hhalf := mul_le_mul_of_nonneg_right (abs_roundHalfEven_sub_le (x / ulp x)) hulp.le
    have hsig := ulp_mul_le hpos
    rw [hdiff, abs_mul, abs_of_pos hulp]
    linarith

theorem round_le {x : ℚ} (h : 0 ≤ x) : round x ≤ x * (1 + 1 / 2 ^ 53) := by
  have herr := (abs_le.1 (round_error h)).2
  linarith

theorem round_nonneg {x : ℚ} (h : 0 ≤ x) : 0 ≤ round x := by
  have herr := (abs_le.1 (round_error h)).1
  linarith

end Binary64
