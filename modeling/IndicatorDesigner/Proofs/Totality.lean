import IndicatorDesigner.Proofs.Dependence
import IndicatorDesigner.Proofs.Score
import IndicatorDesigner.Proofs.TwoPlaces

/-!
Which settings have a script. A period that can be written and finite numbers of any size are
embedded as they are, in range or not, up to numbers that would need more than twenty-eight digits:
one of these, and there is no script at all.
-/
namespace IndicatorDesigner

/-- Settings of the declared kinds, in range or not: a whole period that is not too long to be
written, and finite numbers. -/
structure Config.Finite (c : Config) : Prop where
  lookback : ∃ n : Int, c.lookback = .int n ∧ digitCount n.natAbs ≤ 4300
  buyThreshold : ∃ x : Binary64, c.buyThreshold = .float x ∧ x.isFinite = true
  sellThreshold : ∃ x : Binary64, c.sellThreshold = .float x ∧ x.isFinite = true
  bias : ∃ x : Binary64, c.bias = .float x ∧ x.isFinite = true
  weights : ∀ f, ∃ x : Binary64, c.weights.get f = .float x ∧ x.isFinite = true

theorem Decimal.hundredths_lt_iff (r : Rat) :
    hundredths r < 10 ^ 28 ↔ |r| < 10 ^ 26 - 1 / 200 := by
  have size := abs_nonneg r
  rw [hundredths, Nat.floor_lt (by linarith)]
  push_cast
  constructor <;> intro <;> linarith

namespace Script

open Decimal (hundredths spelled)

/-- The setting that a field writes with two places. -/
def Field.numeric? (c : Config) : Field → Option Value
  | .buyThreshold => some c.buyThreshold
  | .sellThreshold => some c.sellThreshold
  | .bias => some c.bias
  | .weight f => some (c.weights.get f)
  | _ => none

/-- The exact value of the setting that a field writes with two places. -/
def Field.amount? (c : Config) (f : Field) : Option Rat := (f.numeric? c).bind Value.rational?

/-- The period and every number stand in the script as they are set, the numbers with two places. -/
structure Embeds (c : Config) (script : String) : Prop where
  lookback : ∀ n : Int, c.lookback = .int n →
    (Field.lookback.declaration (toString n)).toList ∈ linesOf script
  numbers : ∀ f r, Field.amount? c f = some r →
    (f.declaration (String.ofList (spelled r))).toList ∈ linesOf script

theorem literal_numeric {c : Config} {f : Field} {v : Value} (h : f.numeric? c = some v) :
    f.literal c = number v := by
  cases f with
  | buyThreshold => rw [← Option.some.inj h]; rfl
  | sellThreshold => rw [← Option.some.inj h]; rfl
  | bias => rw [← Option.some.inj h]; rfl
  | weight f => rw [← Option.some.inj h]; rfl
  | _ => cases h

variable {c : Config} {f : Field} {r : Rat}

theorem literal_of_few (h : f.amount? c = some r) (few : hundredths r < 10 ^ 28) :
    f.literal c = .ok (String.ofList (spelled r)) := by
  obtain ⟨v, setting, exact⟩ := Option.bind_eq_some_iff.mp h
  obtain ⟨text, written, digits, _⟩ := Decimal.ofRat_of_few few
  rw [literal_numeric setting, number, numberText_of_rational? exact, written, ← digits,
    String.ofList_toList]
  rfl

theorem literal_of_many (h : f.amount? c = some r) (many : 10 ^ 28 ≤ hundredths r) :
    f.literal c = .error (.number .noTwoPlaces) := by
  obtain ⟨v, setting, exact⟩ := Option.bind_eq_some_iff.mp h
  rw [literal_numeric setting, number, numberText_of_rational? exact, Decimal.ofRat_of_many many]
  rfl

theorem literal_period {n : Int} (period : c.lookback = .int n)
    (digits : digitCount n.natAbs ≤ 4300) : Field.lookback.literal c = .ok (toString n) := by
  have short : (Value.int n).tooLong = false := decide_eq_false (Nat.not_lt.mpr digits)
  simp only [Field.literal, plainText, period, short]
  rfl

/-- A field of such settings is written, unless it is a number with too many hundredths. -/
theorem literal_of_finite (h : c.Finite) (f : Field) :
    (∃ text, f.literal c = .ok text) ∨
      ∃ r, f.amount? c = some r ∧ 10 ^ 28 ≤ hundredths r := by
  have number {v : Value} (finite : ∃ x : Binary64, v = .float x ∧ x.isFinite = true)
      (setting : f.numeric? c = some v) : (∃ text, f.literal c = .ok text) ∨
        ∃ r, f.amount? c = some r ∧ 10 ^ 28 ≤ hundredths r := by
    obtain ⟨x, rfl, finite⟩ := finite
    cases x with
    | infinite negative => cases finite
    | nan => cases finite
    | finite negative m e canonical =>
        have amount : f.amount? c = some _ := Option.bind_eq_some_iff.mpr ⟨_, setting, rfl⟩
        rcases Nat.lt_or_ge (hundredths _) (10 ^ 28) with few | many
        · exact .inl ⟨_, literal_of_few amount few⟩
        · exact .inr ⟨_, amount, many⟩
  cases f with
  | lookback =>
      obtain ⟨n, period, digits⟩ := h.lookback
      exact .inl ⟨_, literal_period period digits⟩
  | buyThreshold => exact number h.buyThreshold rfl
  | sellThreshold => exact number h.sellThreshold rfl
  | bias => exact number h.bias rfl
  | weight f => exact number (h.weights f) rfl
  | model => exact .inl ⟨_, rfl⟩
  | markerSize => exact .inl ⟨_, rfl⟩
  | enabled f => exact .inl ⟨_, rfl⟩

/-- Numbers that have few hundredths are all written, and stand in the script. -/
theorem generate_of_few (h : c.Finite)
    (few : ∀ f r, Field.amount? c f = some r → hundredths r < 10 ^ 28) :
    ∃ script, generate c = .ok script ∧ Embeds c script := by
  have written (f : Field) : ∃ text, f.literal c = .ok text := by
    rcases literal_of_finite h f with written | ⟨r, amount, many⟩
    · exact written
    · exact absurd (few f r amount) (Nat.not_lt.mpr many)
  choose literal written using written
  obtain ⟨n, period, digits⟩ := h.lookback
  have number : c.lookback.IsNumber := period ▸ trivial
  -- The line of a field stands in the script with whatever its literal is.
  have declared {f : Field} {text : String} (ok : f.literal c = .ok text) :
      (f.declaration text).toList ∈ linesOf (document literal) := by
    obtain rfl := Except.ok.inj ((written f).symm.trans ok)
    rw [linesOf_document fun f => (inline_literal number (written f)).newline]
    exact List.mem_map.mpr ⟨.declare f, declare_mem f, rfl⟩
  refine ⟨_, generate_of_literals written, ?_, ?_⟩
  · intro m same
    obtain rfl : n = m := by simpa [period] using same
    exact declared (literal_period period digits)
  · intro f r amount
    exact declared (literal_of_few amount (few f r amount))

/-- One number with too many hundredths, and the settings have no script. -/
theorem generate_of_many (h : c.Finite) (amount : f.amount? c = some r)
    (many : 10 ^ 28 ≤ hundredths r) : generate c = .error (.number .noTwoPlaces) := by
  have unwritten := literal_of_many amount many
  cases result : generate c with
  | ok script =>
      obtain ⟨literal, written, _⟩ := literals_of_generate result
      rw [written f] at unwritten
      cases unwritten
  | error fault =>
      -- Whichever field it is that fails, it fails for the same reason.
      obtain ⟨g, failed⟩ := fault_of_generate result
      rcases literal_of_finite h g with ⟨text, written⟩ | ⟨s, amount, many⟩
      · rw [written] at failed
        cases failed
      · rw [← failed, literal_of_many amount many]

/-- Settings of the declared kinds have a script if each number is below 10^26 - 0.005 in size, and
then every one of them stands in it, in range or not. A greater number leaves them without one. -/
theorem generate_of_finite (h : c.Finite) :
    ((∀ f r, Field.amount? c f = some r → |r| < 10 ^ 26 - 1 / 200) →
      ∃ script, generate c = .ok script ∧ Embeds c script) ∧
    ∀ f r, Field.amount? c f = some r → 10 ^ 26 - 1 / 200 ≤ |r| →
      generate c = .error (.number .noTwoPlaces) := by
  constructor
  · intro small
    exact generate_of_few h fun f r amount => (Decimal.hundredths_lt_iff r).mpr (small f r amount)
  · intro f r amount large
    refine generate_of_many h amount (Nat.not_lt.mp fun few => ?_)
    exact absurd ((Decimal.hundredths_lt_iff r).mp few) (not_lt.mpr large)

/-- A period and a bias far out of range are embedded. -/
theorem generate_of_finite_out_of_range :
    let c : Config := { (.standard : Config) with lookback := .int (-7), bias := .float 1e22 }
    c.Finite ∧ (∀ f r, Field.amount? c f = some r → |r| < 10 ^ 26 - 1 / 200) ∧
      ∃ script, generate c = .ok script ∧
        ("lookback = input.int(-7, 'Lookback Period', minval=50, maxval=200, step=1, " ++
          "group='Model Controls')").toList ∈ linesOf script ∧
        ("biasInput = input.float(10000000000000000000000.00, 'Model Bias', step=0.05, " ++
          "minval=-10.0, maxval=10.0, group='Model Weights')").toList ∈ linesOf script := by
  intro c
  have finite : c.Finite :=
    ⟨⟨-7, rfl, by decide⟩, ⟨_, rfl, rfl⟩, ⟨_, rfl, rfl⟩, ⟨_, rfl, rfl⟩,
      fun f => by cases f <;> exact ⟨_, rfl, rfl⟩⟩
  have small : ∀ f, ∀ r ∈ Field.amount? c f, |r| < 10 ^ 26 - 1 / 200 := by
    decide +kernel
  obtain ⟨script, written, embeds⟩ := (generate_of_finite finite).1 fun f r h => small f r h
  have lookback := embeds.lookback (-7) rfl
  have bias := embeds.numbers .bias (10 ^ 22) (by decide +kernel)
  refine ⟨finite, fun f r h => small f r h, script, written, ?_, ?_⟩
  · convert lookback using 1
    decide +kernel
  · convert bias using 1
    decide +kernel

/-- The bias is a finite number, but its form with two places would have twenty-nine digits. -/
theorem huge_bias_has_no_script :
    let c : Config := { (.standard : Config) with bias := .float 1e26 }
    c.Finite ∧ generate c = .error (.number .noTwoPlaces) := by
  intro c
  have finite : c.Finite :=
    ⟨⟨100, rfl, by decide⟩, ⟨_, rfl, rfl⟩, ⟨_, rfl, rfl⟩, ⟨_, rfl, rfl⟩,
      fun f => by cases f <;> exact ⟨_, rfl, rfl⟩⟩
  have amount : Field.amount? c .bias = some 100000000000000004764729344 := by decide +kernel
  exact ⟨finite, generate_of_many finite amount (by decide +kernel)⟩

end Script
end IndicatorDesigner
