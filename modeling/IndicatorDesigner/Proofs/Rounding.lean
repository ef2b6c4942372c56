import IndicatorDesigner.Numeric.Decimal
import Mathlib.Algebra.Order.Floor.Semifield
import Mathlib.Data.Rat.Floor
import Mathlib.Tactic.FieldSimp
import Mathlib.Tactic.Linarith
import Mathlib.Tactic.Ring

/-!
Numbers with two places, by value. A number is rounded to the nearest hundredth, a half away from
zero, and rounding keeps the order of numbers.
-/
namespace IndicatorDesigner.Decimal

/-- The value of the form with two places. -/
def rounded (r : Rat) : Rat :=
  mkRat (Numeral.signed (decide (r.num < 0)) (roundHalfUp r.num.natAbs r.den)) 100

theorem roundHalfUp_eq_floor (num den : Nat) (h : 0 < den) :
    roundHalfUp num den = ⌊100 * ((num : ℚ) / den) + 1 / 2⌋₊ := by
  have hden : (den : ℚ) ≠ 0 := Nat.cast_ne_zero.mpr h.ne'
  have sum : 100 * ((num : ℚ) / den) + 1 / 2 = ((200 * num + den : Nat) : ℚ) / (2 * den : Nat) := by
    push_cast
    field_simp
    ring
  rw [sum, Nat.floor_div_eq_div, roundHalfUp]

theorem roundHalfUp_abs (r : Rat) :
    roundHalfUp r.num.natAbs r.den = ⌊100 * |r| + 1 / 2⌋₊ := by
  have size : |r| = (r.num.natAbs : ℚ) / r.den := by
    conv_lhs => rw [← Rat.num_div_den r]
    rw [abs_div, Nat.abs_cast, Nat.cast_natAbs, Int.cast_abs]
  rw [roundHalfUp_eq_floor _ _ r.den_pos, ← size]

theorem rounded_of_nonneg {r : Rat} (h : 0 ≤ r) : rounded r = (⌊100 * |r| + 1 / 2⌋₊ : ℚ) / 100 := by
  have sign : decide (r.num < 0) = false := by simpa using Rat.num_nonneg.mpr h
  rw [rounded, sign, roundHalfUp_abs, Rat.mkRat_eq_div]
  simp [Numeral.signed]

theorem rounded_of_neg {r : Rat} (h : r < 0) : rounded r = -(⌊100 * |r| + 1 / 2⌋₊ : ℚ) / 100 := by
  have sign : decide (r.num < 0) = true := by simpa using Rat.num_neg.mpr h
  rw [rounded, sign, roundHalfUp_abs, Rat.mkRat_eq_div]
  simp [Numeral.signed]

/-- The nearest hundredth of a number, a half away from zero. -/
def nearestHundredth (r : Rat) : Rat :=
  if r < 0 then -(⌊100 * |r| + 1 / 2⌋₊ : ℚ) / 100 else (⌊100 * |r| + 1 / 2⌋₊ : ℚ) / 100

theorem rounded_eq_nearestHundredth (r : Rat) : rounded r = nearestHundredth r := by
  rw [nearestHundredth]
  split
  · rename_i negative
    exact rounded_of_neg negative
  · rename_i nonneg
    exact rounded_of_nonneg (not_lt.mp nonneg)

/-- Rounding to two places keeps the order of numbers. -/
theorem rounded_mono {r s : Rat} (h : r ≤ s) : rounded r ≤ rounded s := by
  have size {a b : Rat} (hab : |a| ≤ |b|) :
      ((⌊100 * |a| + 1 / 2⌋₊ : ℕ) : ℚ) ≤ (⌊100 * |b| + 1 / 2⌋₊ : ℕ) :=
    Nat.cast_le.mpr (Nat.floor_mono (by linarith))
  have nonneg (a : Rat) : (0 : ℚ) ≤ (⌊100 * |a| + 1 / 2⌋₊ : ℕ) := Nat.cast_nonneg _
  rcases lt_or_ge r 0 with hr | hr
  · rcases lt_or_ge s 0 with hs | hs
    · rw [rounded_of_neg hr, rounded_of_neg hs]
      have := size (a := s) (b := r) (by rw [abs_of_neg hr, abs_of_neg hs]; linarith)
      linarith
    · rw [rounded_of_neg hr, rounded_of_nonneg hs]
      have hr' := nonneg r
      have hs' := nonneg s
      linarith
  · have hs : 0 ≤ s := hr.trans h
    rw [rounded_of_nonneg hr, rounded_of_nonneg hs]
    have := size (a := r) (b := s) (by rw [abs_of_nonneg hr, abs_of_nonneg hs]; exact h)
    linarith

theorem rounded_le_iff {r : Rat} (h : 0 ≤ r) (n : ℕ) :
    rounded r ≤ n / 100 ↔ r < (n + 1 / 2) / 100 := by
  have step : ⌊100 * r + 1 / 2⌋₊ ≤ n ↔ 100 * r + 1 / 2 < (n + 1 : ℕ) := by
    rw [← Nat.lt_succ_iff, Nat.floor_lt (by linarith)]
  rw [rounded_of_nonneg h, abs_of_nonneg h, div_le_div_iff_of_pos_right (by norm_num),
    Nat.cast_le, step, lt_div_iff₀ (by norm_num), Nat.cast_add, Nat.cast_one]
  constructor <;> intro <;> linarith

/-- A number with two places is below a number of hundredths if it is nearer to a lesser one. -/
theorem rounded_lt_iff {r : Rat} (h : 0 ≤ r) (n : ℕ) :
    rounded r < n / 100 ↔ r < (n - 1 / 2) / 100 := by
  rw [rounded_of_nonneg h, abs_of_nonneg h, div_lt_div_iff_of_pos_right (by norm_num),
    Nat.cast_lt, Nat.floor_lt (by linarith), lt_div_iff₀ (by norm_num)]
  constructor <;> intro <;> linarith

/-- A number has a form with two places if its hundredths have at most twenty-eight digits. -/
theorem ofRat_eq_ok {r : Rat} (h : roundHalfUp r.num.natAbs r.den < tenTo 28) :
    ofRat r = .ok (if r.num = 0 then "0.00"
      else hundredthsText (decide (r.num < 0)) (roundHalfUp r.num.natAbs r.den)) := by
  by_cases zero : r.num = 0
  · rw [ofRat, if_pos zero, if_pos zero]
  · rw [ofRat, if_neg zero, if_neg zero, ofHundredths, if_pos h]

end IndicatorDesigner.Decimal
