import IndicatorDesigner.Proofs.Literals
import IndicatorDesigner.Proofs.Rendering

/-!
How exact numbers are written with two places. The hundredths of a number are counted to the nearest
whole one, a half away from zero; a number with fewer than 10^28 of them is written digit by digit
and is read back as it stands, and one with more is not written at all.
-/
namespace IndicatorDesigner

namespace Decimal

/-- The hundredths of a number without its sign, a half going up. -/
def hundredths (r : Rat) : Nat := ⌊100 * |r| + 1 / 2⌋₊

/-- The characters of a number with two places. Only zero loses its sign; a number that is rounded
to zero keeps it. -/
def spelled (r : Rat) : List Char :=
  if r = 0 then ['0', '.', '0', '0']
  else
    (if r < 0 then ['-'] else []) ++ Nat.toDigits 10 (hundredths r / 100) ++
      ['.', Nat.digitChar (hundredths r % 100 / 10), Nat.digitChar (hundredths r % 10)]

/-! Reading -/

theorem mem_digits {c : Char} (h : c.isDigit = true) :
    c ∈ ['0', '1', '2', '3', '4', '5', '6', '7', '8', '9'] := by
  have digits : ∀ n < 58, 48 ≤ n →
      Char.ofNat n ∈ ['0', '1', '2', '3', '4', '5', '6', '7', '8', '9'] := by
    decide
  obtain ⟨low, high⟩ := Char.isDigit_iff_toNat.mp h
  rw [← Char.ofNat_toNat c]
  exact digits c.toNat (Nat.lt_succ_of_le high) low

/-- What a form with two places is written with is neither trimmed nor changed by a reader. -/
theorem kept_of_isPart {c : Char} (h : IsPart c) :
    Text.isGap c = false ∧ c ≠ '_' ∧
      (match Text.digitValue? c with
        | some n => Nat.digitChar n
        | none => c) = c := by
  have kept : ∀ c ∈ ['-', '.', 'N', 'a'] ++ ['0', '1', '2', '3', '4', '5', '6', '7', '8', '9'],
      Text.isGap c = false ∧ c ≠ '_' ∧
        (match Text.digitValue? c with
          | some n => Nat.digitChar n
          | none => c) = c := by
    decide
  refine kept c (List.mem_append.mpr ?_)
  exact h.imp id mem_digits

theorem trimBoth_eq_self {p : Char → Bool} {s : List Char} (h : ∀ c ∈ s, p c = false) :
    Text.trimBoth p s = s := by
  have none {t : List Char} (ht : ∀ c ∈ t, p c = false) : t.dropWhile p = t := by
    cases t with
    | nil => rfl
    | cons c rest => rw [List.dropWhile_cons_of_neg (by simp [ht c List.mem_cons_self])]
  have back : ∀ c ∈ s.reverse, p c = false := fun c member => h c (List.mem_reverse.mp member)
  rw [Text.trimBoth, none h, none back, List.reverse_reverse]

/-- A reader takes a form with two places as it is. -/
theorem core_of_isPart {s : List Char} (h : ∀ c ∈ s, IsPart c) :
    Numeral.foldDigits ((Text.trimBoth Text.isGap s).filter (· != '_')) = s := by
  have gaps : ∀ c ∈ s, Text.isGap c = false := fun c member => (kept_of_isPart (h c member)).1
  have marks : ∀ c ∈ s, (c != '_') = true := by
    intro c member
    simpa using (kept_of_isPart (h c member)).2.1
  have digits : ∀ c ∈ s, _ = c := fun c member => (kept_of_isPart (h c member)).2.2
  rw [trimBoth_eq_self gaps, List.filter_eq_self.mpr marks, Numeral.foldDigits]
  exact (List.map_congr_left digits).trans (List.map_id' s)

theorem special?_of_digit {c : Char} (h : c.isDigit = true) (negative : Bool) (rest : List Char) :
    special? negative ((c :: rest).map Char.toLower) = none := by
  have letters : ∀ c ∈ ['0', '1', '2', '3', '4', '5', '6', '7', '8', '9'],
      c.toLower ≠ 'i' ∧ c.toLower ≠ 'n' ∧ c.toLower ≠ 's' := by
    decide
  obtain ⟨i, n, s⟩ := letters c (mem_digits h)
  simp [special?, i, n, s]

/-- A number of hundredths is read as the decimal number that it was written for. -/
theorem ofText_hundredthsText (negative : Bool) {n : Nat} (h : n < 10 ^ 28) :
    ofText (hundredthsText negative n) = .ok (.finite negative n (-2)) := by
  have digits : digitCount n ≤ 28 := (digitCount_le_iff (by decide)).mpr h
  have within : finite? negative n (-2) = .ok (.finite negative n (-2)) := by
    refine if_pos ⟨by decide, ?_⟩
    rw [greatestExponent]
    omega
  obtain ⟨c, rest, whole⟩ :=
    List.exists_cons_of_ne_nil (Nat.toDigits_ne_nil (b := 10) (n := n / 100))
  have digit : c.isDigit = true :=
    Numeral.all_isDigit_toDigits (n / 100) c (whole ▸ List.mem_cons_self)
  have plain := Numeral.readDecimal?_hundredths n
  rw [ofText, core_of_isPart (isPart_hundredthsText negative n), Numeral.takeSign_hundredthsText]
  rw [whole, List.cons_append] at plain ⊢
  simp only [special?_of_digit digit, plain, within]

theorem twoPlaces_hundredths (negative : Bool) (n : Nat) :
    (finite negative n (-2)).twoPlaces = ofHundredths negative n := by
  cases n with
  | zero => rfl
  | succ n =>
      have digits : 0 < digitCount (n + 1) := by
        rw [digitCount, Nat.toString_eq_repr, ← String.length_toList, Nat.toList_repr]
        exact List.length_pos_of_ne_nil Nat.toDigits_ne_nil
      have whole : roundHalfUp (n + 1) (tenTo 2) = n + 1 := by
        rw [roundHalfUp, show tenTo 2 = 100 from rfl]
        omega
      rw [twoPlaces, if_neg (by decide), if_neg (by decide), if_neg (by omega)]
      · exact congrArg (ofHundredths negative) whole
      · simp

/-! Writing -/

theorem hundredths_zero : hundredths 0 = 0 := by
  simp only [hundredths, abs_zero, mul_zero, zero_add]
  exact Nat.floor_eq_zero.mpr (by norm_num)

/-- Zero needs no case of its own: it has no hundredths and no sign. -/
theorem ofRat_eq_ofHundredths (r : Rat) :
    ofRat r = ofHundredths (decide (r < 0)) (hundredths r) := by
  by_cases zero : r.num = 0
  · obtain rfl := Rat.zero_of_num_zero zero
    rw [hundredths_zero]
    rfl
  · rw [ofRat, if_neg zero, roundHalfUp_abs, hundredths, decide_eq_decide.mpr Rat.num_neg]

theorem toList_hundredthsText_spelled (r : Rat) :
    (hundredthsText (decide (r < 0)) (hundredths r)).toList = spelled r := by
  by_cases zero : r = 0
  · rw [zero, hundredths_zero]
    decide
  · have tenths : hundredths r / 10 % 10 = hundredths r % 100 / 10 := by omega
    rw [Numeral.toList_hundredthsText, spelled, if_neg zero, tenths,
      Nat.toDigits_of_lt_base (by omega : hundredths r % 100 / 10 < 10),
      Nat.toDigits_of_lt_base (by omega : hundredths r % 10 < 10)]
    simp

/-- A number whose hundredths have at most twenty-eight digits is written, and its text read. -/
theorem ofRat_of_few {r : Rat} (h : hundredths r < 10 ^ 28) :
    ∃ text, ofRat r = .ok text ∧ text.toList = spelled r ∧
      (ofText text >>= twoPlaces) = .ok text := by
  have written (negative : Bool) :
      ofHundredths negative (hundredths r) = .ok (hundredthsText negative (hundredths r)) :=
    if_pos h
  refine ⟨_, (ofRat_eq_ofHundredths r).trans (written _), toList_hundredthsText_spelled r, ?_⟩
  rw [ofText_hundredthsText _ h]
  exact (twoPlaces_hundredths _ _).trans (written _)

theorem ofRat_of_many {r : Rat} (h : 10 ^ 28 ≤ hundredths r) : ofRat r = .error .noTwoPlaces := by
  rw [ofRat_eq_ofHundredths]
  exact if_neg (Nat.not_lt.mpr h)

end Decimal

namespace Script

/-- An exact number with fewer than 10^28 hundredths is written digit by digit, and the text stands
for itself when it is given in place of the number. One with more hundredths is not written. -/
theorem numberText_of_amount {s : Scalar} {r : Rat} (h : s.amount? = some (.exact r)) :
    (Decimal.hundredths r < 10 ^ 28 → ∃ text, numberText (.scalar s) = .ok text ∧
      text.toList = Decimal.spelled r ∧ numberText (.text text) = .ok text) ∧
    (10 ^ 28 ≤ Decimal.hundredths r → numberText (.scalar s) = .error .noTwoPlaces) := by
  rw [numberText_of_exact h]
  exact ⟨Decimal.ofRat_of_few, Decimal.ofRat_of_many⟩

/-- A tie goes away from zero, and the least whole number with too many hundredths is 10^26. -/
theorem numberText_of_tie_and_limit :
    let tie : Scalar := .float (-0.125)
    let limit : Scalar := .int (10 ^ 26)
    (tie.amount? = some (.exact (-1 / 8)) ∧ ∃ text, numberText (.scalar tie) = .ok text ∧
      text.toList = ['-', '0', '.', '1', '3'] ∧ numberText (.text text) = .ok text) ∧
    limit.amount? = some (.exact (10 ^ 26)) ∧
      numberText (.scalar limit) = .error .noTwoPlaces := by
  intro tie limit
  have exactTie : tie.amount? = some (.exact (-1 / 8)) := by decide +kernel
  have exactLimit : limit.amount? = some (.exact (10 ^ 26)) := by decide +kernel
  obtain ⟨text, written, spelled, again⟩ := (numberText_of_amount exactTie).1 (by decide +kernel)
  have digits : Decimal.spelled (-1 / 8) = ['-', '0', '.', '1', '3'] := by decide +kernel
  exact ⟨⟨exactTie, text, written, spelled.trans digits, again⟩, exactLimit,
    (numberText_of_amount exactLimit).2 (by decide +kernel)⟩

end Script
end IndicatorDesigner
