import Mathlib.Tactic.Linarith

/-!
Fixed-precision decimal division. A quotient is rounded to a number of decimal
places, half away from zero, and the result is rounded once more to an integer.
The two roundings together still send `0` to `0` and a multiple of the divisor
to the exact quotient, they are monotone, and they stay inside integer bounds of
the quotient.
-/

namespace XyApi.Lib

def roundDiv (n d : Int) : Int :=
  if n < 0 then -((2 * -n + d) / (2 * d)) else (2 * n + d) / (2 * d)

def decimalScale : Int := 10000000000000000

def decimalDivRound (n d : Int) : Int := roundDiv (roundDiv (n * decimalScale) d) decimalScale

section

theorem roundDiv_nonneg (hd : 0 < d) (hn : 0 ≤ n) : 0 ≤ roundDiv n d := by
  unfold roundDiv
  rw [if_neg (by omega)]
  exact Int.ediv_nonneg (by omega) (by omega)

theorem le_roundDiv (hd : 0 < d) (hn : 0 ≤ n) (h : c * d ≤ n) : c ≤ roundDiv n d := by
  unfold roundDiv
  rw [if_neg (by omega)]
  rw [Int.le_ediv_iff_mul_le (by omega)]
  linarith

theorem roundDiv_le (hd : 0 < d) (hn : 0 ≤ n) (h : n ≤ c * d) : roundDiv n d ≤ c := by
  unfold roundDiv
  rw [if_neg (by omega)]
  have hLt : (2 * n + d) / (2 * d) < c + 1 := by
    rw [Int.ediv_lt_iff_lt_mul (by omega)]
    linarith
  omega

theorem roundDiv_mono (hd : 0 < d) (hn : 0 ≤ n) (h : n ≤ m) :
    roundDiv n d ≤ roundDiv m d := by
  unfold roundDiv
  rw [if_neg (by omega), if_neg (by omega)]
  exact Int.ediv_le_ediv (by omega) (by omega)

theorem le_decimalDivRound (hd : 0 < d) (hn : 0 ≤ n) (h : c * d ≤ n) :
    c ≤ decimalDivRound n d := by
  have hScaled : 0 ≤ n * decimalScale := by unfold decimalScale; omega
  refine le_roundDiv (by decide) (roundDiv_nonneg hd hScaled) (le_roundDiv hd hScaled ?_)
  calc c * decimalScale * d = c * d * decimalScale := Int.mul_right_comm _ _ _
    _ ≤ n * decimalScale := Int.mul_le_mul_of_nonneg_right h (by decide)

theorem decimalDivRound_le (hd : 0 < d) (hn : 0 ≤ n) (h : n ≤ c * d) :
    decimalDivRound n d ≤ c := by
  have hScaled : 0 ≤ n * decimalScale := by unfold decimalScale; omega
  refine roundDiv_le (by decide) (roundDiv_nonneg hd hScaled) (roundDiv_le hd hScaled ?_)
  calc n * decimalScale ≤ c * d * decimalScale := Int.mul_le_mul_of_nonneg_right h (by decide)
    _ = c * decimalScale * d := Int.mul_right_comm _ _ _

theorem decimalDivRound_mono (hd : 0 < d) (hn : 0 ≤ n) (h : n ≤ m) :
    decimalDivRound n d ≤ decimalDivRound m d := by
  have hScaled : 0 ≤ n * decimalScale := by unfold decimalScale; omega
  refine roundDiv_mono (by decide) (roundDiv_nonneg hd hScaled) (roundDiv_mono hd hScaled ?_)
  exact Int.mul_le_mul_of_nonneg_right h (by decide)

/-- A multiple of the divisor divides exactly. -/
theorem decimalDivRound_mul (hd : 0 < d) (hc : 0 ≤ c) : decimalDivRound (c * d) d = c := by
  have hn : 0 ≤ c * d := Int.mul_nonneg hc hd.le
  exact le_antisymm (decimalDivRound_le hd hn le_rfl) (le_decimalDivRound hd hn le_rfl)

@[simp] theorem decimalDivRound_zero (hd : 0 < d) : decimalDivRound 0 d = 0 := by
  simpa using decimalDivRound_mul (c := 0) hd le_rfl

end

example : decimalDivRound 1000 3 = 333 := by decide

example : decimalDivRound 1 2 = 1 := by decide

end XyApi.Lib
