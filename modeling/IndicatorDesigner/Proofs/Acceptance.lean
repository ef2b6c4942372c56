import IndicatorDesigner.Proofs.FieldByField
import IndicatorDesigner.Proofs.Inputs
import IndicatorDesigner.Proofs.Literals
import Mathlib.Tactic.Linarith

/-!
What an accepted request promises. Its settings are in range and of the right kinds, so a script can
be written for them, and each numeric input of the script starts between its own two ends.
-/
namespace IndicatorDesigner

namespace Binary64

/-- A finite number between two others. -/
def Between (x least greatest : Binary64) : Prop :=
  x.isFinite = true ∧ least.le x = true ∧ x.le greatest = true

instance (x least greatest : Binary64) : Decidable (x.Between least greatest) :=
  inferInstanceAs (Decidable (_ ∧ _ ∧ _))

theorem between_of_le {x least greatest : Binary64} (hl : least.isFinite = true)
    (hg : greatest.isFinite = true) (low : least.le x = true) (high : x.le greatest = true) :
    x.Between least greatest := by
  refine ⟨?_, low, high⟩
  cases x with
  | finite negative m e canonical => rfl
  | nan => simp [le] at high
  | infinite negative =>
      cases negative with
      | true => cases least <;> simp_all [le, isFinite]
      | false => cases greatest <;> simp_all [le, isFinite]

theorem le_iff_of_toRat? {x y : Binary64} {a b : Rat} (hx : x.toRat? = some a)
    (hy : y.toRat? = some b) : x.le y = true ↔ a ≤ b := by
  cases x <;> cases y <;> simp_all [toRat?, le]

theorem Between.toRat? {x least greatest : Binary64} {a b : Rat} (h : x.Between least greatest)
    (ha : least.toRat? = some a) (hb : greatest.toRat? = some b) :
    ∃ q, x.toRat? = some q ∧ a ≤ q ∧ q ≤ b := by
  cases x with
  | finite negative m e canonical =>
      exact ⟨_, rfl, (le_iff_of_toRat? ha rfl).mp h.2.1, (le_iff_of_toRat? rfl hb).mp h.2.2⟩
  | infinite negative => simp [Between, isFinite] at h
  | nan => simp [Between, isFinite] at h

end Binary64

/-- Settings of the kinds and within the ranges that a request may have. -/
structure Config.InRange (c : Config) : Prop where
  lookback : ∃ n : Int, c.lookback = .int n ∧ 50 ≤ n ∧ n ≤ 200
  buyThreshold : ∃ x : Binary64, c.buyThreshold = .float x ∧ x.Between 0.5 0.9
  sellThreshold : ∃ x : Binary64, c.sellThreshold = .float x ∧ x.Between 0.1 0.5
  bias : ∃ x : Binary64, c.bias = .float x ∧ x.Between (-10.0) 10.0
  switches : ∀ f, ∃ b : Bool, c.features.get f = .bool b
  weights : ∀ f, ∃ x : Binary64, c.weights.get f = .float x ∧ x.Between (-5.0) 5.0

namespace Request

theorem field_ok {α : Type} {entries : List (Chars × Value)} {name : String}
    {rule : Value → Except Issue.Cause α} {standard a : α} (good : α → Prop)
    (rules : ∀ v a, rule v = .ok a → good a) (default : good standard)
    (h : field entries name rule standard = .ok a) : good a := by
  unfold field at h
  split at h
  · exact Except.ok.inj h ▸ default
  · exact rules _ _ (ok_of_mapError h)

theorem boundedInt_ok {b : Bounds Int} {v : Value} {n : Int}
    (h : Coercion.boundedInt b v = .ok n) : b.least ≤ n ∧ n ≤ b.greatest := by
  obtain ⟨m, _, h⟩ := ok_of_bind h
  split at h
  · cases h
  · split at h
    · cases h
    · obtain rfl := Except.ok.inj h
      omega

theorem boundedFloat_ok {b : Bounds Binary64} {v : Value} {x : Binary64}
    (h : Coercion.boundedFloat b v = .ok x) : b.least.le x = true ∧ x.le b.greatest = true := by
  obtain ⟨y, _, h⟩ := ok_of_bind h
  split at h
  · cases h
  · split at h
    · cases h
    · obtain rfl := Except.ok.inj h
      simp_all

theorem floatField_ok {b : Bounds Binary64} (hl : b.least.isFinite = true)
    (hg : b.greatest.isFinite = true) {entries : List (Chars × Value)} {name : String}
    {standard x : Binary64} (default : standard.Between b.least b.greatest)
    (h : field entries name (Coercion.boundedFloat b) standard = .ok x) :
    x.Between b.least b.greatest := by
  refine field_ok (·.Between b.least b.greatest) ?_ default h
  intro v y hv
  obtain ⟨low, high⟩ := boundedFloat_ok hv
  exact Binary64.between_of_le hl hg low high

theorem weights_ok {entries : List (Chars × Value)} {weights : List (Feature × Binary64)}
    (h : weightsOf entries = .ok weights) : ∀ entry ∈ weights, entry.2.Between (-5.0) 5.0 := by
  obtain ⟨submitted, _, h⟩ := ok_of_bind h
  split at h
  · rename_i none
    obtain rfl := Except.ok.inj h
    intro entry member
    have ok : weightOk entry.2 = true := by simpa using List.find?_eq_none.mp none entry member
    rw [weightOk, Bool.and_eq_true] at ok
    exact Binary64.between_of_le (by decide) (by decide) ok.1 ok.2
  · cases h

theorem submitted?_of_all {α : Type} {entries : List (Feature × α)} (good : α → Prop)
    (h : ∀ entry ∈ entries, good entry.2) {f : Feature} {default : α} (hd : good default) :
    good ((submitted? entries f).getD default) := by
  rw [submitted?]
  cases hf : entries.find? fun entry => entry.1 == f with
  | none => exact hd
  | some entry => exact h entry (List.mem_of_find?_eq_some hf)

/-- The settings of an accepted request are in range. -/
theorem inRange {v : Value} {r : Request} (h : ofValue v = .ok r) : r.toConfig.InRange := by
  obtain ⟨entries, _, h⟩ := object_of_ok h
  obtain ⟨read, _⟩ := ofEntries_ok_iff.mp h
  have lookback : lookbackOf entries = .ok r.lookback := read .lookback
  have buy : buyThresholdOf entries = .ok r.buyThreshold := read .buyThreshold
  have sell : sellThresholdOf entries = .ok r.sellThreshold := read .sellThreshold
  have weights : weightsOf entries = .ok r.weights := read .weights
  have bias : biasOf entries = .ok r.bias := read .bias
  exact {
    lookback := ⟨_, rfl, field_ok (fun n => 50 ≤ n ∧ n ≤ 200) (fun _ _ => boundedInt_ok)
      (by decide) lookback⟩
    buyThreshold := ⟨_, rfl, floatField_ok (by decide) (by decide) (by decide) buy⟩
    sellThreshold := ⟨_, rfl, floatField_ok (by decide) (by decide) (by decide) sell⟩
    bias := ⟨_, rfl, floatField_ok (by decide) (by decide) (by decide) bias⟩
    switches := fun f => ⟨_, PerFeature.get_ofFn _ f⟩
    weights := fun f => ⟨_, PerFeature.get_ofFn _ f,
      submitted?_of_all (fun x : Binary64 => x.Between (-5.0) 5.0) (weights_ok weights)
        (by cases f <;> decide)⟩ }

end Request

namespace Script

open Decimal (rounded roundHalfUp)

/-- A text that keeps to one argument of one line and, for a numeric field, reads as a number in the
range that the declaration of the field writes. -/
def Field.Fits (f : Field) (text : String) : Prop :=
  '\n' ∉ text.toList ∧ ',' ∉ text.toList ∧ ∀ least greatest, f.range? = some (least, greatest) →
    ∃ q, Numeral.rational? text.toList = some q ∧ least ≤ q ∧ q ≤ greatest

/-- A finite number between two small ones is written, and reads as a number between the rounded
two. -/
theorem number_between {x least greatest : Binary64} {a b : Rat} (h : x.Between least greatest)
    (ha : least.toRat? = some a) (hb : greatest.toRat? = some b) (low : -10 ≤ a) (high : b ≤ 10) :
    ∃ text, number (.float x) = .ok text ∧ '\n' ∉ text.toList ∧ ',' ∉ text.toList ∧
      ∃ q, Numeral.rational? text.toList = some q ∧ rounded a ≤ q ∧ q ≤ rounded b := by
  obtain ⟨q, hq, hl, hg⟩ := h.toRat? ha hb
  have size : |q| ≤ 10 := abs_le.mpr ⟨low.trans hl, hg.trans high⟩
  -- At most ten, so some thousand hundredths, far from the twenty-eight digits that are the limit.
  have few : roundHalfUp q.num.natAbs q.den < tenTo 28 := by
    rw [Decimal.roundHalfUp_abs]
    refine lt_of_le_of_lt (Nat.floor_mono (by linarith : _ ≤ (1001 : ℚ))) ?_
    rw [show (1001 : ℚ) = ((1001 : ℕ) : ℚ) from rfl, Nat.floor_natCast]
    decide
  have written := Decimal.ofRat_eq_ok few
  have amount : Scalar.amount? (.float x) = some (.exact q) := by
    cases x with
    | finite negative m e canonical => simp [Scalar.amount?, hq]
    | infinite negative => cases hq
    | nan => cases hq
  have plain := Decimal.inline_of_isPart (Decimal.isPart_ofRat written)
  refine ⟨_, ?_, plain.newline, plain.comma, _, Numeral.rational?_of_ofRat written,
    Decimal.rounded_mono hl, Decimal.rounded_mono hg⟩
  rw [number, numberText_of_exact amount, written]
  rfl

theorem fits_of_number {f : Field} {v : Value} {least greatest : Binary64} {a b : Rat}
    (h : ∃ x : Binary64, v = .float x ∧ x.Between least greatest)
    (range : f.range? = some (rounded a, rounded b)) (ha : least.toRat? = some a)
    (hb : greatest.toRat? = some b) (low : -10 ≤ a) (high : b ≤ 10) :
    ∃ text, number v = .ok text ∧ f.Fits text := by
  obtain ⟨x, rfl, between⟩ := h
  obtain ⟨text, ok, line, one, q, reads, hl, hg⟩ := number_between between ha hb low high
  refine ⟨text, ok, line, one, ?_⟩
  intro least greatest limits
  rw [range, Option.some.injEq, Prod.mk.injEq] at limits
  exact ⟨q, reads, limits.1 ▸ hl, limits.2 ▸ hg⟩

theorem fits_of_unbounded {f : Field} {text : String} (unbounded : f.range? = none)
    (line : '\n' ∉ text.toList) (one : ',' ∉ text.toList) : f.Fits text := by
  refine ⟨line, one, ?_⟩
  intro least greatest limits
  rw [unbounded] at limits
  cases limits

theorem fits_toString {n : Int} (low : 50 ≤ n) (high : n ≤ 200) :
    Field.lookback.Fits (toString n) := by
  have plain := Inline.toString_int n
  obtain ⟨k, rfl⟩ := Int.eq_ofNat_of_zero_le (by omega : 0 ≤ n)
  refine ⟨plain.newline, plain.comma, ?_⟩
  intro least greatest limits
  obtain ⟨rfl, rfl⟩ := Prod.mk.inj (Option.some.inj limits)
  refine ⟨k, Numeral.rational?_toString k, ?_, ?_⟩
  · exact_mod_cast low
  · exact_mod_cast high

/-- Every literal of settings in range can be written and fits its field. -/
theorem literal_fits {c : Config} (h : c.InRange) (f : Field) :
    ∃ text, f.literal c = .ok text ∧ f.Fits text := by
  cases f with
  | lookback =>
      obtain ⟨n, hn, low, high⟩ := h.lookback
      refine ⟨toString n, ?_, fits_toString low high⟩
      have digits : digitCount n.natAbs ≤ 3 := (digitCount_le_iff (by decide)).mpr (by omega)
      have short : (Value.int n).tooLong = false := by
        refine decide_eq_false ?_
        rw [Numeral.maxDigits]
        omega
      simp only [Field.literal, plainText, hn, short]
      rfl
  | model =>
      refine ⟨_, rfl, fits_of_unbounded rfl ?_ ?_⟩
      · cases c.model <;> decide
      · cases c.model <;> decide
  | markerSize =>
      refine ⟨_, rfl, fits_of_unbounded rfl ?_ ?_⟩
      · cases c.markerSize <;> decide
      · cases c.markerSize <;> decide
  | enabled f =>
      refine ⟨_, rfl, fits_of_unbounded rfl ?_ ?_⟩
      · cases (c.features.get f).truthy <;> decide
      · cases (c.features.get f).truthy <;> decide
  | bias =>
      exact fits_of_number h.bias (by decide +kernel) rfl rfl (by decide +kernel)
        (by decide +kernel)
  | buyThreshold =>
      exact fits_of_number h.buyThreshold (by decide +kernel) rfl rfl (by decide +kernel)
        (by decide +kernel)
  | sellThreshold =>
      exact fits_of_number h.sellThreshold (by decide +kernel) rfl rfl (by decide +kernel)
        (by decide +kernel)
  | weight f =>
      exact fits_of_number (h.weights f) (by cases f <;> decide +kernel) rfl rfl
        (by decide +kernel) (by decide +kernel)

theorem input?_of_fits {f : Field} {text : String} (h : f.Fits text) :
    (f.input? text).map NumericInput.name = f.range?.map fun _ => f.variableName := by
  cases hr : f.range? with
  | none => cases hq : Numeral.rational? text.toList <;> simp [Field.input?, hr, hq]
  | some range =>
      obtain ⟨q, hq, _⟩ := h.2.2 _ _ hr
      simp [Field.input?, hr, hq]

theorem between_of_fits {f : Field} {text : String} (h : f.Fits text) {input : NumericInput}
    (hi : f.input? text = some input) :
    input.least ≤ input.value ∧ input.value ≤ input.greatest := by
  cases hr : f.range? with
  | none => cases hq : Numeral.rational? text.toList <;> simp [Field.input?, hr, hq] at hi
  | some range =>
      obtain ⟨q, hq, low, high⟩ := h.2.2 _ _ hr
      simp only [Field.input?, hr, hq, Option.bind_eq_bind, Option.bind_some,
        Option.some.injEq] at hi
      subst hi
      exact ⟨low, high⟩

/-- Settings in range have a script, and each of its eight numeric inputs starts in its range. -/
theorem generate_inRange {c : Config} (h : c.InRange) : ∃ script, generate c = .ok script ∧
    (numericInputs script).map NumericInput.name = ["lookback", "biasInput", "buyThreshold",
      "sellThreshold", "weightRSI", "weightMACD", "weightVOLUME", "weightPRICE"] ∧
    ∀ input ∈ numericInputs script, input.least ≤ input.value ∧ input.value ≤ input.greatest := by
  choose literal written fits using literal_fits h
  refine ⟨document literal, generate_of_literals written, ?_⟩
  rw [numericInputs_document (fun f => (fits f).1) (fun f => (fits f).2.1)]
  constructor
  · rw [List.map_filterMap]
    simp only [input?_of_fits (fits _)]
    rfl
  · intro input member
    obtain ⟨f, _, hf⟩ := List.mem_filterMap.mp member
    exact between_of_fits (fits f) hf

end Script

/-- An accepted request has settings of the right kinds and in range, and a script in which every
numeric input starts between its two ends. -/
theorem accepted_request_is_safe {v : Value} {r : Request} (h : Request.ofValue v = .ok r) :
    r.toConfig.InRange ∧ ∃ script, Script.generate r.toConfig = .ok script ∧
      (Script.numericInputs script).map Script.NumericInput.name = ["lookback", "biasInput",
        "buyThreshold", "sellThreshold", "weightRSI", "weightMACD", "weightVOLUME",
        "weightPRICE"] ∧
      ∀ input ∈ Script.numericInputs script,
        input.least ≤ input.value ∧ input.value ≤ input.greatest :=
  ⟨Request.inRange h, Script.generate_inRange (Request.inRange h)⟩

theorem edge_request_is_safe :
    let v : Value := .object [("lookback", .text " 0200 "), ("buy_threshold", .float 0.9),
      ("weights", .object [("volume", .int (-5))])]
    ∃ r, Request.ofValue v = .ok r ∧ r.toConfig.InRange ∧
      ∃ script, Script.generate r.toConfig = .ok script ∧
        (Script.numericInputs script).map Script.NumericInput.name = ["lookback", "biasInput",
          "buyThreshold", "sellThreshold", "weightRSI", "weightMACD", "weightVOLUME",
          "weightPRICE"] ∧
        ∀ input ∈ Script.numericInputs script,
          input.least ≤ input.value ∧ input.value ≤ input.greatest := by
  intro v
  have accepted : Request.ofValue v = .ok
      { lookback := 200, buyThreshold := 0.9, sellThreshold := Defaults.sellThreshold,
        features := [], weights := [(.volume, -5.0)], bias := Defaults.bias,
        model := Defaults.model, markerSize := Defaults.markerSize } := rfl
  exact ⟨_, accepted, accepted_request_is_safe accepted⟩

end IndicatorDesigner
