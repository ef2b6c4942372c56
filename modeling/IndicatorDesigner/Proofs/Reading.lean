import IndicatorDesigner.Proofs.Rounding
import Mathlib.Data.List.TakeWhile

/-!
Decimal numerals read back as exact numbers. A whole number reads as itself, and a form with two
places reads as the rounded number it was made for.
-/
namespace IndicatorDesigner

/-- A number has few digits if it is below the power of ten with one digit more. -/
theorem digitCount_le_iff {n k : Nat} (h : 0 < k) : digitCount n ≤ k ↔ n < 10 ^ k := by
  rw [digitCount, Nat.toString_eq_repr, ← String.length_toList, Nat.toList_repr]
  exact Nat.length_toDigits_le_iff (by decide) h

namespace Numeral

/-- The exact value of a signed decimal numeral. -/
def rational? (s : List Char) : Option Rat :=
  match takeSign s with
  | (negative, body) => (readDecimal? body).map fun (digits, exponent) =>
    mkRat (signed negative (digits * tenTo exponent.toNat)) (tenTo (-exponent).toNat)

theorem digitsValue_eq_ofDigitChars (digits : List Char) :
    digitsValue digits = Nat.ofDigitChars 10 digits 0 := by
  rw [digitsValue, Nat.ofDigitChars_eq_foldl]
  simp only [Nat.mul_comm]

theorem digitsValue_append (front back : List Char) :
    digitsValue (front ++ back) = 10 ^ back.length * digitsValue front + digitsValue back := by
  rw [digitsValue_eq_ofDigitChars, Nat.ofDigitChars_append, Nat.ofDigitChars_eq_ofDigitChars_zero,
    ← digitsValue_eq_ofDigitChars, ← digitsValue_eq_ofDigitChars]

theorem digitsValue_toDigits (n : Nat) : digitsValue (Nat.toDigits 10 n) = n := by
  rw [digitsValue_eq_ofDigitChars, Nat.ofDigitChars_ten_toDigits]

theorem all_isDigit_toDigits (n : Nat) : ∀ c ∈ Nat.toDigits 10 n, c.isDigit = true :=
  fun _ hc => Nat.isDigit_of_mem_toDigits (by decide) (by decide) hc

theorem takeSign_of_digits {digits : List Char} (h : ∀ c ∈ digits, c.isDigit = true)
    (hne : digits ≠ []) (rest : List Char) :
    takeSign (digits ++ rest) = (false, digits ++ rest) := by
  cases digits with
  | nil => exact absurd rfl hne
  | cons c tail =>
      have digit := h c List.mem_cons_self
      have plus : c ≠ '+' := by
        rintro rfl
        exact absurd digit (by decide)
      have minus : c ≠ '-' := by
        rintro rfl
        exact absurd digit (by decide)
      simp [takeSign, plus, minus]

theorem readDecimal?_whole {whole : List Char} (h : ∀ c ∈ whole, c.isDigit = true)
    (hne : whole ≠ []) : readDecimal? whole = some (digitsValue whole, 0) := by
  have all := List.takeWhile_eq_self_iff.mpr h
  have none := List.dropWhile_eq_nil_iff.mpr h
  simp [readDecimal?, all, none, hne, readExponent?]

theorem readDecimal?_point {whole fraction : List Char} (h : ∀ c ∈ whole, c.isDigit = true)
    (hne : whole ≠ []) (hf : ∀ c ∈ fraction, c.isDigit = true) :
    readDecimal? (whole ++ '.' :: fraction) =
      some (digitsValue (whole ++ fraction), -(fraction.length : Int)) := by
  have front : (whole ++ '.' :: fraction).takeWhile Char.isDigit = whole := by
    rw [List.takeWhile_append_of_pos h, List.takeWhile_cons_of_neg (by decide), List.append_nil]
  have back : (whole ++ '.' :: fraction).dropWhile Char.isDigit = '.' :: fraction := by
    rw [List.dropWhile_append_of_pos h, List.dropWhile_cons_of_neg (by decide)]
  have all := List.takeWhile_eq_self_iff.mpr hf
  have none := List.dropWhile_eq_nil_iff.mpr hf
  simp [readDecimal?, front, back, all, none, hne, readExponent?]

/-- A whole number reads as itself. -/
theorem rational?_toString (n : Nat) : rational? (toString n).toList = some (n : Rat) := by
  have digits := all_isDigit_toDigits n
  have sign := takeSign_of_digits digits Nat.toDigits_ne_nil []
  rw [List.append_nil] at sign
  rw [Nat.toString_eq_repr, Nat.toList_repr, rational?, sign]
  simp only [readDecimal?_whole digits Nat.toDigits_ne_nil, digitsValue_toDigits, signed,
    Option.map_some]
  simp [tenTo, Rat.mkRat_eq_div]

theorem toList_hundredthsText (negative : Bool) (hundredths : Nat) :
    (Decimal.hundredthsText negative hundredths).toList =
      (if negative then ['-'] else []) ++ (Nat.toDigits 10 (hundredths / 100) ++ '.' ::
        (Nat.toDigits 10 (hundredths / 10 % 10) ++ Nat.toDigits 10 (hundredths % 10))) := by
  cases negative <;>
    simp [Decimal.hundredthsText, Nat.toString_eq_repr, Nat.toList_repr]

theorem takeSign_hundredthsText (negative : Bool) (hundredths : Nat) :
    takeSign (Decimal.hundredthsText negative hundredths).toList =
      (negative, Nat.toDigits 10 (hundredths / 100) ++ '.' ::
        (Nat.toDigits 10 (hundredths / 10 % 10) ++ Nat.toDigits 10 (hundredths % 10))) := by
  rw [toList_hundredthsText]
  cases negative with
  | false => exact takeSign_of_digits (all_isDigit_toDigits _) Nat.toDigits_ne_nil _
  | true => rfl

/-- What follows the sign of a number of hundredths is read with its two places. -/
theorem readDecimal?_hundredths (hundredths : Nat) :
    readDecimal? (Nat.toDigits 10 (hundredths / 100) ++ '.' ::
      (Nat.toDigits 10 (hundredths / 10 % 10) ++ Nat.toDigits 10 (hundredths % 10))) =
      some (hundredths, -2) := by
  have whole := all_isDigit_toDigits (hundredths / 100)
  have tenths := Nat.toDigits_of_lt_base (Nat.mod_lt (hundredths / 10) (by decide : 10 > 0))
  have units := Nat.toDigits_of_lt_base (Nat.mod_lt hundredths (by decide : 10 > 0))
  let fraction := Nat.toDigits 10 (hundredths / 10 % 10) ++ Nat.toDigits 10 (hundredths % 10)
  have fractionDigits : ∀ c ∈ fraction, c.isDigit = true := by
    intro c hc
    rcases List.mem_append.mp hc with hc | hc
    · exact all_isDigit_toDigits _ c hc
    · exact all_isDigit_toDigits _ c hc
  have two : fraction.length = 2 := by simp only [fraction, tenths, units]; rfl
  have value : digitsValue (Nat.toDigits 10 (hundredths / 100) ++ fraction) = hundredths := by
    have unitsLength : (Nat.toDigits 10 (hundredths % 10)).length = 1 := by rw [units]; rfl
    rw [digitsValue_append, two, digitsValue_append, unitsLength, digitsValue_toDigits,
      digitsValue_toDigits, digitsValue_toDigits]
    omega
  rw [readDecimal?_point whole Nat.toDigits_ne_nil fractionDigits, value, two]
  rfl

/-- A number of hundredths reads as that many hundredths. -/
theorem rational?_hundredthsText (negative : Bool) (hundredths : Nat) :
    rational? (Decimal.hundredthsText negative hundredths).toList =
      some (mkRat (signed negative hundredths) 100) := by
  rw [rational?, takeSign_hundredthsText]
  simp only [readDecimal?_hundredths, Option.map_some]
  cases negative <;> simp [tenTo, signed]

/-- The form with two places of an exact number reads as the rounded number. -/
theorem rational?_of_ofRat {r : Rat} {text : String} (h : Decimal.ofRat r = .ok text) :
    rational? text.toList = some (Decimal.rounded r) := by
  by_cases zero : r.num = 0
  · rw [Decimal.ofRat, if_pos zero, Except.ok.injEq] at h
    rw [← h, Rat.zero_of_num_zero zero]
    decide
  · rw [Decimal.ofRat, if_neg zero, Decimal.ofHundredths] at h
    split at h
    · rw [← Except.ok.inj h, rational?_hundredthsText, Decimal.rounded]
    · cases h

end Numeral
end IndicatorDesigner
