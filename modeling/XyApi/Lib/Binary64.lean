import XyApi.Lib.Rounding
import Mathlib.Data.Rat.Lemmas
import Mathlib.Tactic.Positivity
import Mathlib.Algebra.Order.Field.Power
import Mathlib.Data.Int.Log
import Mathlib.Data.Rat.Floor
import Mathlib.Tactic.NormNum

/-!
Double-precision numbers as the rationals they stand for. An operation computes
the exact result and rounds it once, to the nearest multiple of the unit in the
last place, ties to even. Zero has one sign; a quotient by zero takes the sign of
its numerator. Small integers are exact and rounding keeps the sign.
-/

namespace XyApi.Lib

def roundRat (q : ℚ) : Int := roundDiv q.num q.den

def decimalDiv (a b : ℚ) : ℚ := roundRat (a / b * decimalScale) / decimalScale

theorem roundRat_nonneg (h : 0 ≤ q) : 0 ≤ roundRat q :=
  roundDiv_nonneg (by exact_mod_cast q.den_pos) (Rat.num_nonneg.mpr h)

theorem decimalScale_nonneg : (0 : ℚ) ≤ (decimalScale : ℚ) := by
  unfold decimalScale; norm_num

theorem decimalDiv_nonneg (ha : 0 ≤ a) (hb : 0 ≤ b) : 0 ≤ decimalDiv a b := by
  have hScaled : 0 ≤ a / b * decimalScale := mul_nonneg (div_nonneg ha hb) decimalScale_nonneg
  exact div_nonneg (by exact_mod_cast roundRat_nonneg hScaled) decimalScale_nonneg

inductive Float64
  | finite (value : ℚ)
  | inf (negative : Bool)
  | nan
  deriving DecidableEq, Repr

namespace Float64

def roundEven (q : ℚ) : Int :=
  let low := ⌊q⌋
  if q - low < 1 / 2 then low
  else if q - low > 1 / 2 then low + 1
  else if low % 2 = 0 then low else low + 1

def ulpExponent (q : ℚ) : Int := max (Int.log 2 |q| - 52) (-1074)

def ofRat (q : ℚ) : Float64 :=
  let ulp : ℚ := 2 ^ ulpExponent q
  let rounded := roundEven (q / ulp) * ulp
  if 2 ^ 1024 ≤ |rounded| then .inf (q < 0) else .finite rounded

def ofInt (n : Int) : Float64 := ofRat n

def neg : Float64 → Float64
  | .finite a => .finite (-a)
  | .inf s => .inf (!s)
  | .nan => .nan

def add : Float64 → Float64 → Float64
  | .nan, _ | _, .nan => .nan
  | .finite a, .finite b => ofRat (a + b)
  | .inf s, .inf t => if s = t then .inf s else .nan
  | .inf s, .finite _ | .finite _, .inf s => .inf s

def sub (x y : Float64) : Float64 := x.add y.neg

def mul : Float64 → Float64 → Float64
  | .nan, _ | _, .nan => .nan
  | .finite a, .finite b => ofRat (a * b)
  | .inf s, .inf t => .inf (s != t)
  | .inf s, .finite a | .finite a, .inf s => if a = 0 then .nan else .inf (s != (a < 0))

def div : Float64 → Float64 → Float64
  | .nan, _ | _, .nan | .inf _, .inf _ => .nan
  | .finite a, .finite b =>
    if b = 0 then if a = 0 then .nan else .inf (a < 0) else ofRat (a / b)
  | .inf s, .finite a => .inf (s != (a < 0))
  | .finite _, .inf _ => .finite 0

def round : Float64 → Float64
  | .finite a => .finite (roundRat a)
  | x => x

def truncate : Float64 → Int
  | .finite a => a.num.tdiv a.den
  | _ => 0

/-- The comparison `x < y`, which holds of no exception `nan`. -/
def lt : Float64 → Float64 → Bool
  | .nan, _ | _, .nan => false
  | .finite a, .finite b => a < b
  | .inf s, .inf t => s && !t
  | .inf s, .finite _ => s
  | .finite _, .inf s => !s

def le : Float64 → Float64 → Bool
  | .nan, _ | _, .nan => false
  | .finite a, .finite b => a ≤ b
  | .inf s, .inf t => s || !t
  | .inf s, .finite _ => s
  | .finite _, .inf s => !s

theorem roundEven_intCast (n : Int) : roundEven n = n := by
  simp [roundEven]

theorem roundEven_nonneg {q : ℚ} (h : 0 ≤ q) : 0 ≤ roundEven q := by
  have hFloor : 0 ≤ ⌊q⌋ := Int.floor_nonneg.mpr h
  unfold roundEven
  dsimp only
  split_ifs <;> omega

theorem ulpExponent_nonpos {n : Int} (hn : n ≠ 0) (h : |n| < 2 ^ 53) :
    ulpExponent n ≤ 0 := by
  have hPos : (0 : ℚ) < |(n : ℚ)| := by positivity
  have hLog : Int.log 2 |(n : ℚ)| < 53 := by
    rw [← Int.lt_zpow_iff_log_lt (by decide) hPos]
    exact_mod_cast h
  unfold ulpExponent
  omega

/-- Integers of at most fifty-three bits are exact. -/
theorem ofInt_of_lt {n : Int} (h : |n| < 2 ^ 53) : ofInt n = .finite n := by
  rcases eq_or_ne n 0 with rfl | hn
  · simp [ofInt, ofRat, roundEven]
  · obtain ⟨k, hk⟩ := Int.eq_ofNat_of_zero_le (neg_nonneg.mpr (ulpExponent_nonpos hn h))
    have hUlp : ulpExponent n = -(k : Int) := by omega
    have hScaled : (n : ℚ) / 2 ^ ulpExponent n = ((n * 2 ^ k : Int) : ℚ) := by
      rw [hUlp, zpow_neg, div_inv_eq_mul, zpow_natCast]
      push_cast
      rfl
    have hRounded : (roundEven ((n : ℚ) / 2 ^ ulpExponent n) : ℚ) * 2 ^ ulpExponent n = n := by
      rw [hScaled, roundEven_intCast, ← hScaled, div_mul_cancel₀ _ (by positivity)]
    have hSmall : ¬ (2 : ℚ) ^ 1024 ≤ |(n : ℚ)| := by
      have hCast : |(n : ℚ)| < 2 ^ 53 := by exact_mod_cast h
      have hPow : (2 : ℚ) ^ 53 ≤ 2 ^ 1024 := pow_le_pow_right₀ (by norm_num) (by norm_num)
      exact not_le.mpr (hCast.trans_le hPow)
    simp only [ofInt, ofRat, hRounded, if_neg hSmall]

theorem abs_roundEven_le {q : ℚ} {n : Int} (h : |q| < n) : |roundEven q| ≤ n := by
  obtain ⟨hLow, hHigh⟩ := abs_lt.mp h
  have hFloorLow : -n ≤ ⌊q⌋ := Int.le_floor.mpr (by push_cast; exact hLow.le)
  have hFloorHigh : ⌊q⌋ < n := Int.floor_lt.mpr hHigh
  rw [abs_le]
  unfold roundEven
  dsimp only
  split_ifs <;> omega

/-- A rounded number is a multiple of its own unit in the last place. -/
theorem rounded_eq_mul_ulp : ∃ m : Int,
    (roundEven (q / 2 ^ ulpExponent q) : ℚ) * 2 ^ ulpExponent q =
      m * 2 ^ ulpExponent (roundEven (q / 2 ^ ulpExponent q) * 2 ^ ulpExponent q) := by
  set e := ulpExponent q with he
  set m := roundEven (q / 2 ^ e)
  have hPos : (0 : ℚ) < 2 ^ e := by positivity
  have hLog : Int.log 2 |q| ≤ e + 52 := by
    rw [he, ulpExponent]
    omega
  have hLow : -1074 ≤ e := le_max_right _ _
  have hm : |m| ≤ 2 ^ 53 := by
    refine abs_roundEven_le ?_
    have hLt : |q| < 2 ^ (Int.log 2 |q| + 1) := Int.lt_zpow_succ_log_self (by decide) _
    have hLe : (2 : ℚ) ^ (Int.log 2 |q| + 1) ≤ 2 ^ (e + 53) :=
      zpow_le_zpow_right₀ (by norm_num) (by omega)
    have hSplit : (2 : ℚ) ^ (e + 53) = ((2 ^ 53 : Int) : ℚ) * 2 ^ e := by
      rw [add_comm, zpow_add₀ (by norm_num)]
      norm_cast
    rw [abs_div, abs_of_pos hPos, div_lt_iff₀ hPos, ← hSplit]
    exact hLt.trans_le hLe
  by_cases hZero : m = 0
  · exact ⟨0, by simp [hZero]⟩
  have hAbs : |(m : ℚ) * 2 ^ e| = |m| * 2 ^ e := by
    rw [abs_mul, abs_of_pos hPos, Int.cast_abs]
  have hNonzero : 0 < |(m : ℚ) * 2 ^ e| := by
    rw [hAbs]
    exact mul_pos (by exact_mod_cast abs_pos.mpr hZero) hPos
  rcases hm.lt_or_eq with hLt | hEq
  · -- The exponent of the unit does not grow.
    have hUlp : ulpExponent ((m : ℚ) * 2 ^ e) ≤ e := by
      have hLogLt : Int.log 2 |(m : ℚ) * 2 ^ e| < e + 53 := by
        rw [← Int.lt_zpow_iff_log_lt (by decide) hNonzero, hAbs, add_comm,
          zpow_add₀ (by norm_num)]
        exact mul_lt_mul_of_pos_right (by exact_mod_cast hLt) hPos
      unfold ulpExponent
      omega
    obtain ⟨k, hk⟩ := Int.eq_ofNat_of_zero_le (sub_nonneg.mpr hUlp)
    refine ⟨m * 2 ^ k, ?_⟩
    have hSplit : e = k + ulpExponent ((m : ℚ) * 2 ^ e) := by omega
    push_cast
    rw [mul_assoc, ← zpow_natCast, ← zpow_add₀ (by norm_num), ← hSplit]
  · -- Rounding up reached the next power of two.
    have hUlp : ulpExponent ((m : ℚ) * 2 ^ e) = e + 1 := by
      have hPower : |(m : ℚ) * 2 ^ e| = 2 ^ (e + 53) := by
        rw [hAbs, hEq, add_comm, zpow_add₀ (by norm_num)]
        norm_cast
      unfold ulpExponent
      have hLogPower : Int.log 2 ((2 : ℚ) ^ (e + 53)) = e + 53 := Int.log_zpow (by decide) _
      rw [hPower, hLogPower]
      omega
    obtain ⟨k, hk⟩ : ∃ k : Int, m = k * 2 := by
      rcases abs_choice m with hAbsM | hAbsM
      · exact ⟨2 ^ 52, by omega⟩
      · exact ⟨-2 ^ 52, by omega⟩
    refine ⟨k, ?_⟩
    rw [hUlp, zpow_add₀ (by norm_num), hk]
    push_cast
    ring

/-- Rounding once more changes nothing. -/
theorem ofRat_of_ofRat (h : ofRat q = .finite x) : ofRat x = .finite x := by
  simp only [ofRat] at h
  split at h
  · cases h
  · next hSmall =>
      obtain ⟨m, hm⟩ := rounded_eq_mul_ulp
      injection h with hx
      rw [hx] at hm hSmall
      have hScaled : x / 2 ^ ulpExponent x = m := by
        rw [div_eq_iff (by positivity)]
        exact hm
      simp only [ofRat, hScaled, roundEven_intCast, ← hm, if_neg hSmall]

theorem sub_zero_ofInt (n : Int) : (ofInt n).sub (.finite 0) = ofInt n := by
  cases h : ofInt n with
  | nan => rfl
  | inf => rfl
  | finite => simpa [sub, add, neg] using ofRat_of_ofRat h

theorem add_intCast {a b : Int} (h : |a + b| < 2 ^ 53) :
    add (.finite a) (.finite b) = .finite ((a + b : Int) : ℚ) := by
  rw [← ofInt_of_lt h, ofInt, Int.cast_add]
  rfl

theorem ofRat_nonneg (h : 0 ≤ q) :
    (∃ r, 0 ≤ r ∧ ofRat q = .finite r) ∨ ofRat q = .inf false := by
  have hRound : (0 : ℚ) ≤ roundEven (q / 2 ^ ulpExponent q) * 2 ^ ulpExponent q := by
    have hScaled : 0 ≤ roundEven (q / 2 ^ ulpExponent q) := roundEven_nonneg (by positivity)
    exact mul_nonneg (by exact_mod_cast hScaled) (by positivity)
  simp only [ofRat]
  split
  · exact .inr (by simp [not_lt.mpr h])
  · exact .inl ⟨_, hRound, rfl⟩

/-- The number is not below zero; an exception `nan` is not either. -/
def NotNeg (x : Float64) : Prop := x.lt (.finite 0) = false

theorem notNeg_finite : NotNeg (.finite q) ↔ 0 ≤ q := by
  simp [NotNeg, lt]

theorem ofRat_notNeg (h : 0 ≤ q) : NotNeg (ofRat q) := by
  rcases ofRat_nonneg h with ⟨r, hr, hFinite⟩ | hInf
  · rw [hFinite]
    exact notNeg_finite.mpr hr
  · rw [hInf]
    rfl

theorem mul_notNeg (hx : NotNeg x) (hb : 0 ≤ b) :
    NotNeg (x.mul (.finite b)) := by
  cases x with
  | nan => rfl
  | finite => exact ofRat_notNeg (mul_nonneg (notNeg_finite.mp hx) hb)
  | inf s =>
    obtain rfl : s = false := hx
    simp only [mul]
    split
    · rfl
    · simp [NotNeg, lt, hb]

theorem div_notNeg (hx : NotNeg x) (hb : 0 ≤ b) :
    NotNeg (x.div (.finite b)) := by
  cases x with
  | nan => rfl
  | finite a =>
    have ha : 0 ≤ a := notNeg_finite.mp hx
    simp only [div]
    split
    · split
      · rfl
      · simp [NotNeg, lt, ha]
    · exact ofRat_notNeg (div_nonneg ha hb)
  | inf s =>
    obtain rfl : s = false := hx
    simp [NotNeg, div, lt, hb]

end Float64

end XyApi.Lib
