import IndicatorDesigner.Proofs.Sameness
import Mathlib.Algebra.Field.Rat
import Mathlib.Algebra.Order.Ring.Rat

/-!
Equality of settings and the identity under which their script is kept. Two values are equal if they
are the same text or stand for the same number, exactly, whatever kind of number they are. Settings
have equal keys if they are equal in everything but their switches, and the switches count alike; so
equal settings have equal keys, and keys tell settings apart whose switches are zero or one.
-/
namespace IndicatorDesigner

/-! Numbers -/

/-- The number that a scalar stands for. A flag is zero or one, and a binary64 number is exactly its
mantissa times a power of two. -/
inductive Scalar.Denotes : Scalar → ℚ → Prop
  | bool (b : Bool) : Denotes (.bool b) (if b then 1 else 0)
  | int (n : Int) : Denotes (.int n) n
  | float (negative : Bool) (mantissa : Nat) (exponent : Int)
      (canonical : Binary64.Canonical mantissa exponent) :
      Denotes (.float (.finite negative mantissa exponent canonical))
        ((if negative then -1 else 1) * mantissa * 2 ^ exponent)

theorem twoTo_eq_pow (n : Nat) : twoTo n = 2 ^ n := rfl

theorem Binary64.magnitude_eq (mantissa : Nat) (exponent : Int) :
    magnitude mantissa exponent = mantissa * 2 ^ exponent := by
  rw [magnitude, Rat.mkRat_eq_div, twoTo_eq_pow, twoTo_eq_pow]
  push_cast
  cases exponent with
  | ofNat n =>
      have none : (-(Int.ofNat n)).toNat = 0 := by simp
      rw [none, pow_zero, div_one, Int.ofNat_eq_natCast, Int.toNat_natCast, zpow_natCast]
  | negSucc n =>
      have size : (-(Int.negSucc n)).toNat = n + 1 := rfl
      rw [size, Int.toNat_negSucc, pow_zero, mul_one, zpow_negSucc, div_eq_mul_inv]

theorem Scalar.Denotes.amount?_eq {s : Scalar} {r : ℚ} (h : s.Denotes r) :
    s.amount? = some (.exact r) := by
  cases h with
  | bool b => cases b <;> rfl
  | int n => rfl
  | float negative m e canonical =>
      cases negative <;>
        simp [amount?, Binary64.toRat?, Binary64.magnitude_eq]

theorem Scalar.denotes_of_amount? {s : Scalar} {r : ℚ} (h : s.amount? = some (.exact r)) :
    s.Denotes r := by
  cases s with
  | null => cases h
  | text t => cases h
  | bool b =>
      obtain rfl := Amount.exact.inj (Option.some.inj h)
      exact .bool b
  | int n =>
      obtain rfl := Amount.exact.inj (Option.some.inj h)
      exact .int n
  | float x =>
      cases x with
      | infinite negative => cases h
      | nan => cases h
      | finite negative m e canonical =>
          have denotes := Denotes.float negative m e canonical
          rw [denotes.amount?_eq] at h
          exact Amount.exact.inj (Option.some.inj h) ▸ denotes

/-- Numbers are equal if they stand for the same number, whatever their kinds. -/
theorem Scalar.Denotes.same_iff {s t : Scalar} {q r : ℚ} (hs : s.Denotes q) (ht : t.Denotes r) :
    s.same t = true ↔ q = r := by
  rw [Scalar.same_iff]
  constructor
  · rintro (⟨rfl, _⟩ | ⟨_, rfl, _⟩ | ⟨x, left, right⟩)
    · cases hs
    · cases hs
    · rw [hs.amount?_eq] at left
      rw [ht.amount?_eq, ← left] at right
      exact (Amount.exact.inj (Option.some.inj right)).symm
  · rintro rfl
    exact .inr (.inr ⟨_, hs.amount?_eq, ht.amount?_eq⟩)

/-- A number counts as true unless it is zero. -/
theorem Scalar.Denotes.truthy_iff {s : Scalar} {r : ℚ} (h : s.Denotes r) :
    s.truthy = true ↔ r ≠ 0 := by
  cases h with
  | bool b => cases b <;> simp [truthy]
  | int n => simp [truthy]
  | float negative m e canonical =>
      have power : (2 : ℚ) ^ e ≠ 0 := zpow_ne_zero e two_ne_zero
      cases negative <;> simp [truthy, power]

/-! Plain values -/

namespace Value

/-- Nothing, a flag, a whole number of any size, a finite binary64 number or a text. -/
inductive Plain : Value → Prop
  | null : Plain .null
  | bool (b : Bool) : Plain (.bool b)
  | int (n : Int) : Plain (.int n)
  | float {x : Binary64} (finite : x.isFinite = true) : Plain (.float x)
  | text (s : Chars) : Plain (.chars s)

/-- Two values are equal: both are nothing, the same text, or the same number. -/
inductive Equal : Value → Value → Prop
  | null : Equal .null .null
  | text (s : Chars) : Equal (.chars s) (.chars s)
  | number {s t : Scalar} {r : ℚ} (left : s.Denotes r) (right : t.Denotes r) :
      Equal (.scalar s) (.scalar t)

variable {v w : Value}

theorem Plain.isScalar (h : v.Plain) : v.IsScalar := by
  cases h <;> exact ⟨_, rfl⟩

theorem Plain.ne_nan (h : v.Plain) : v ≠ .float .nan := by
  rintro rfl
  cases h with
  | float finite => cases finite

/-- A plain value is no infinite number. -/
theorem Plain.amount?_eq {s : Scalar} {x : Amount} (h : (scalar s).Plain)
    (amount : s.amount? = some x) : ∃ r, x = .exact r := by
  cases h with
  | null => cases amount
  | text t => cases amount
  | bool b => exact ⟨_, (Option.some.inj amount).symm⟩
  | int n => exact ⟨_, (Option.some.inj amount).symm⟩
  | @float x finite =>
      cases x with
      | finite negative m e canonical => exact ⟨_, (Option.some.inj amount).symm⟩
      | infinite negative => cases finite
      | nan => cases finite

theorem Equal.same (h : v.Equal w) : v.same w = true := by
  cases h with
  | null => rfl
  | text s =>
      rw [same_scalar]
      exact Scalar.same_self (by simp)
  | number left right => exact (left.same_iff right).mpr rfl

theorem Plain.same_iff (h : v.Plain) : v.same w = true ↔ v.Equal w := by
  refine ⟨?_, Equal.same⟩
  intro same
  obtain ⟨t, rfl⟩ := h.isScalar.of_same same
  obtain ⟨s, rfl⟩ := h.isScalar
  rw [same_scalar, Scalar.same_iff] at same
  obtain ⟨rfl, rfl⟩ | ⟨u, rfl, rfl⟩ | ⟨x, left, right⟩ := same
  · exact .null
  · exact .text u
  · obtain ⟨r, rfl⟩ := h.amount?_eq left
    exact .number (Scalar.denotes_of_amount? left) (Scalar.denotes_of_amount? right)

/-- Equal values count alike. -/
theorem Equal.truthy_eq (h : v.Equal w) : v.truthy = w.truthy := by
  cases h with
  | null => rfl
  | text s => rfl
  | number left right => exact Bool.eq_iff_iff.mpr (left.truthy_iff.trans right.truthy_iff.symm)

/-- A flag, or what is equal to zero or one. -/
inductive IsFlag : Value → Prop
  | bool (b : Bool) : IsFlag (.bool b)
  | zero {v : Value} (same : v.same (.int 0) = true) : IsFlag v
  | one {v : Value} (same : v.same (.int 1) = true) : IsFlag v

theorem denotes_of_same_int {n : Int} (h : v.same (.int n) = true) :
    ∃ s, v = .scalar s ∧ s.Denotes n := by
  cases v with
  | scalar s =>
      rw [same_scalar, Scalar.same_iff] at h
      obtain ⟨_, absurd⟩ | ⟨_, _, absurd⟩ | ⟨x, left, right⟩ := h
      · cases absurd
      · cases absurd
      · exact ⟨s, rfl, Scalar.denotes_of_amount? (left.trans right.symm)⟩
  | list items => cases h
  | object entries => cases h

/-- A flag is the number that it counts as. -/
theorem IsFlag.denotes (h : v.IsFlag) :
    ∃ s, v = .scalar s ∧ s.Denotes (if v.truthy then 1 else 0) := by
  cases h with
  | bool b => exact ⟨_, rfl, .bool b⟩
  | zero same =>
      obtain ⟨s, rfl, denotes⟩ := denotes_of_same_int same
      have off : s.truthy = false := by simpa using denotes.truthy_iff
      exact ⟨s, rfl, by simpa [truthy, off] using denotes⟩
  | one same =>
      obtain ⟨s, rfl, denotes⟩ := denotes_of_same_int same
      have on : s.truthy = true := denotes.truthy_iff.mpr (by simp)
      exact ⟨s, rfl, by simpa [truthy, on] using denotes⟩

theorem IsFlag.equal (hv : v.IsFlag) (hw : w.IsFlag) (same : v.truthy = w.truthy) : v.Equal w := by
  obtain ⟨s, rfl, left⟩ := hv.denotes
  obtain ⟨t, rfl, right⟩ := hw.denotes
  exact .number left (same ▸ right)

end Value

/-! Digests -/

theorem Digest.ofScalar_of_amount? {s : Scalar} {x : Amount} (h : s.amount? = some x) :
    ofScalar s = ofAmount x := by
  cases s with
  | null => cases h
  | text t => cases h
  | bool b => simp only [ofScalar, h, Option.map_some, Option.getD_some]
  | int n => simp only [ofScalar, h, Option.map_some, Option.getD_some]
  | float x => simp only [ofScalar, h, Option.map_some, Option.getD_some]

/-- Equal scalars have one digest. -/
theorem Digest.same_of_same {s t : Scalar} (h : s.same t = true) :
    (ofScalar s).same (ofScalar t) = true := by
  rw [Scalar.same_iff] at h
  obtain ⟨rfl, rfl⟩ | ⟨u, rfl, rfl⟩ | ⟨x, left, right⟩ := h
  · rfl
  · simp only [ofScalar]
    split <;> simp [Digest.same]
  · rw [ofScalar_of_amount? left, ofScalar_of_amount? right]
    cases x <;> simp [ofAmount, Digest.same]

namespace Config

/-- The digest of a value, if it has one. -/
def digest? : Value → Option Digest
  | .scalar s => some (.ofScalar s)
  | _ => none

theorem Key.digests_eq (k : Key) : k.digests = k.values.filterMap digest? := rfl

theorem all_zip_digests {vs ws : List Value} (scalars : ∀ v ∈ vs, v.IsScalar)
    (h : List.Forall₂ (fun v w => v.same w = true) vs ws) :
    (((vs.filterMap digest?).zip (ws.filterMap digest?)).all fun (x, y) => x.same y) = true := by
  induction h with
  | nil => rfl
  | @cons v w vs ws first _ ih =>
      obtain ⟨here, others⟩ := List.forall_mem_cons.mp scalars
      obtain ⟨t, rfl⟩ := here.of_same first
      obtain ⟨s, rfl⟩ := here
      simp only [List.filterMap_cons, digest?, List.zip_cons_cons, List.all_cons, Bool.and_eq_true]
      exact ⟨Digest.same_of_same first, ih others⟩

/-- Equal keys have one digest. -/
theorem Key.Hashable.sameDigest {a b : Key} (ha : a.Hashable) (h : (a == b) = true) :
    a.sameDigest b = true := by
  obtain ⟨values, switches, model, markerSize⟩ := beq_iff.mp h
  simp only [Key.sameDigest, digests_eq, all_zip_digests ha values, switches, model, markerSize,
    BEq.rfl, Bool.and_self]

/-! Settings -/

variable {a b c : Config}

/-- Settings of which every stored value is plain. -/
structure Plain (c : Config) : Prop where
  lookback : c.lookback.Plain
  buyThreshold : c.buyThreshold.Plain
  sellThreshold : c.sellThreshold.Plain
  features : ∀ f, (c.features.get f).Plain
  weights : ∀ f, (c.weights.get f).Plain
  bias : c.bias.Plain

/-- Settings that are equal in everything but their switches. -/
structure AlikeButSwitches (a b : Config) : Prop where
  lookback : a.lookback.Equal b.lookback
  buyThreshold : a.buyThreshold.Equal b.buyThreshold
  sellThreshold : a.sellThreshold.Equal b.sellThreshold
  weights : ∀ f, (a.weights.get f).Equal (b.weights.get f)
  bias : a.bias.Equal b.bias
  model : a.model = b.model
  markerSize : a.markerSize = b.markerSize

theorem plain_standard : standard.Plain where
  lookback := .int _
  buyThreshold := .float (by decide)
  sellThreshold := .float (by decide)
  features := fun f => by cases f <;> exact .bool _
  weights := fun f => by cases f <;> exact .float (by decide)
  bias := .float (by decide)

theorem Plain.values (h : c.Plain) : ∀ v ∈ c.key.values, v.Plain := by
  intro v member
  simp only [Key.values, key, PerFeature.toList, Feature.all, List.map_cons, List.map_nil,
    List.cons_append, List.nil_append, List.mem_cons, List.not_mem_nil, or_false] at member
  rcases member with rfl | rfl | rfl | rfl | rfl | rfl | rfl | rfl
  · exact h.lookback
  · exact h.buyThreshold
  · exact h.sellThreshold
  · exact h.weights .rsi
  · exact h.weights .macd
  · exact h.weights .volume
  · exact h.weights .price
  · exact h.bias

theorem Plain.hashable_key (h : c.Plain) : c.key.Hashable :=
  fun v member => (h.values v member).isScalar

theorem Plain.nanFree_key (h : c.Plain) : c.key.NanFree :=
  fun v member => (h.values v member).ne_nan

theorem switches_eq_iff : a.switches = b.switches ↔
    ∀ f, (a.features.get f).truthy = (b.features.get f).truthy := by
  constructor
  · intro same f
    rw [← PerFeature.get_map Value.truthy, ← PerFeature.get_map Value.truthy]
    exact congrArg (fun p => PerFeature.get p f) same
  · intro same
    simp only [switches, PerFeature.map, same]

/-- Settings have equal keys if they are alike but for their switches, and these count alike. -/
theorem Plain.key_beq_iff (h : a.Plain) : (a.key == b.key) = true ↔
    AlikeButSwitches a b ∧ ∀ f, (a.features.get f).truthy = (b.features.get f).truthy := by
  rw [← switches_eq_iff]
  simp only [Key.beq_eq_same, Key.same, key, Bool.and_eq_true, beq_iff_eq, sameMap_iff,
    h.lookback.same_iff, h.buyThreshold.same_iff, h.sellThreshold.same_iff, (h.weights _).same_iff,
    h.bias.same_iff]
  constructor
  · rintro ⟨⟨⟨⟨⟨⟨⟨lookback, buy⟩, sell⟩, switches⟩, weights⟩, bias⟩, model⟩, size⟩
    exact ⟨⟨lookback, buy, sell, weights, bias, model, size⟩, switches⟩
  · rintro ⟨⟨lookback, buy, sell, weights, bias, model, size⟩, switches⟩
    exact ⟨⟨⟨⟨⟨⟨⟨lookback, buy⟩, sell⟩, switches⟩, weights⟩, bias⟩, model⟩, size⟩

/-- Settings are equal if they are alike but for their switches, and these are equal, too. -/
theorem Plain.same_iff (h : a.Plain) : a.same b = true ↔
    AlikeButSwitches a b ∧ ∀ f, (a.features.get f).Equal (b.features.get f) := by
  simp only [same, Bool.and_eq_true, beq_iff_eq, sameMap_iff, h.lookback.same_iff,
    h.buyThreshold.same_iff, h.sellThreshold.same_iff, (h.features _).same_iff,
    (h.weights _).same_iff, h.bias.same_iff]
  constructor
  · rintro ⟨⟨⟨⟨⟨⟨⟨lookback, buy⟩, sell⟩, features⟩, weights⟩, bias⟩, model⟩, size⟩
    exact ⟨⟨lookback, buy, sell, weights, bias, model, size⟩, features⟩
  · rintro ⟨⟨lookback, buy, sell, weights, bias, model, size⟩, features⟩
    exact ⟨⟨⟨⟨⟨⟨⟨lookback, buy⟩, sell⟩, features⟩, weights⟩, bias⟩, model⟩, size⟩

theorem Plain.key_beq_of_same (h : a.Plain) (same : a.same b = true) :
    (a.key == b.key) = true := by
  obtain ⟨alike, features⟩ := h.same_iff.mp same
  exact h.key_beq_iff.mpr ⟨alike, fun f => (features f).truthy_eq⟩

/-- Where every switch is zero or one, settings under one key are equal. -/
theorem Plain.same_of_key_beq (h : a.Plain) (flags : ∀ f, (a.features.get f).IsFlag)
    (others : ∀ f, (b.features.get f).IsFlag) (equal : (a.key == b.key) = true) :
    a.same b = true := by
  obtain ⟨alike, switches⟩ := h.key_beq_iff.mp equal
  exact h.same_iff.mpr ⟨alike, fun f => (flags f).equal (others f) (switches f)⟩

theorem equivalence_key :
    Equivalence fun a b : {c : Config // c.Plain} => (a.1.key == b.1.key) = true where
  refl a := a.2.hashable_key.beq_self a.2.nanFree_key
  symm {a _} h := a.2.hashable_key.beq_symm h
  trans {a _ _} hab hbc := a.2.hashable_key.beq_trans hab hbc

/-- Among settings of plain values, to have equal keys is an equivalence. Equal settings have equal
keys, and equal keys one digest. Settings under one key are equal in everything but their switches,
which count alike, so they are equal if every switch is a flag or equal to zero or one. Numbers are
equal if they stand for exactly the same number. -/
theorem keys_identify_settings :
    (Equivalence fun a b : {c : Config // c.Plain} => (a.1.key == b.1.key) = true) ∧
    (∀ a b : {c : Config // c.Plain},
      (a.1.same b.1 = true → (a.1.key == b.1.key) = true) ∧
      ((a.1.key == b.1.key) = true → a.1.key.sameDigest b.1.key = true) ∧
      ((a.1.key == b.1.key) = true ↔ AlikeButSwitches a.1 b.1 ∧
        ∀ f, (a.1.features.get f).truthy = (b.1.features.get f).truthy) ∧
      (a.1.same b.1 = true ↔ AlikeButSwitches a.1 b.1 ∧
        ∀ f, (a.1.features.get f).Equal (b.1.features.get f)) ∧
      ((∀ f, (a.1.features.get f).IsFlag) → (∀ f, (b.1.features.get f).IsFlag) →
        (a.1.same b.1 = true ↔ (a.1.key == b.1.key) = true))) ∧
    ∀ (s t : Scalar) (q r : ℚ), s.Denotes q → t.Denotes r → (s.same t = true ↔ q = r) := by
  refine ⟨equivalence_key, ?_, fun _ _ _ _ left right => left.same_iff right⟩
  rintro ⟨a, plain⟩ ⟨b, _⟩
  refine ⟨plain.key_beq_of_same, plain.hashable_key.sameDigest, plain.key_beq_iff, plain.same_iff,
    ?_⟩
  intro flags others
  exact ⟨plain.key_beq_of_same, plain.same_of_key_beq flags others⟩

/-- The whole number 2^53 and the same binary64 number are one period, 2^53 + 1 is another. A switch
that is a text counts as true, but is not equal to a flag. -/
theorem keys_identify_settings_of_large_period :
    let whole : Config := { standard with
      lookback := .int (2 ^ 53), features := ⟨.float 1.0, .int 1, .float (-0.0), .bool true⟩ }
    let rounded : Config := { standard with lookback := .float 9007199254740992.0 }
    let next : Config := { whole with lookback := .int (2 ^ 53 + 1) }
    let texts : Config := { rounded with features := ⟨.text "on", .int 2, .null, .bool true⟩ }
    (whole.same rounded = true ∧ (whole.key == rounded.key) = true ∧
      whole.key.sameDigest rounded.key = true) ∧
    (next.key == rounded.key) = false ∧
    (texts.key == rounded.key) = true ∧ texts.same rounded = false := by
  intro whole rounded next texts
  have wholePlain : whole.Plain := by
    refine { plain_standard with lookback := .int _, features := ?_ }
    intro f
    cases f with
    | rsi => exact .float (by decide +kernel)
    | macd => exact .int 1
    | volume => exact .float (by decide +kernel)
    | price => exact .bool true
  have wholeFlags : ∀ f, (whole.features.get f).IsFlag := by
    intro f
    cases f with
    | rsi => exact .one (by decide +kernel)
    | macd => exact .one (by decide)
    | volume => exact .zero (by decide +kernel)
    | price => exact .bool true
  have roundedPlain : rounded.Plain :=
    { plain_standard with lookback := .float (by decide +kernel) }
  have roundedFlags : ∀ f, (rounded.features.get f).IsFlag := by
    intro f
    cases f <;> exact .bool _
  have nextPlain : next.Plain := { wholePlain with lookback := .int _ }
  have textsPlain : texts.Plain := by
    refine { roundedPlain with features := ?_ }
    intro f
    cases f with
    | rsi => exact .text _
    | macd => exact .int 2
    | volume => exact .null
    | price => exact .bool true
  have ⟨_, settings, _⟩ := keys_identify_settings
  have ⟨_, digest, _, _, equal⟩ := settings ⟨whole, wholePlain⟩ ⟨rounded, roundedPlain⟩
  have ⟨_, _, identity, _⟩ := settings ⟨next, nextPlain⟩ ⟨rounded, roundedPlain⟩
  have ⟨_, _, _, equality, _⟩ := settings ⟨texts, textsPlain⟩ ⟨rounded, roundedPlain⟩
  have oneKey : (whole.key == rounded.key) = true := by decide +kernel
  refine ⟨⟨(equal wholeFlags roundedFlags).mpr oneKey, oneKey, digest oneKey⟩, ?_, ?_, ?_⟩
  · have apart : next.lookback.same rounded.lookback = false := by decide +kernel
    rw [Bool.eq_false_iff]
    intro sameKey
    cases apart.symm.trans (identity.mp sameKey).1.lookback.same
  · decide +kernel
  · rw [Bool.eq_false_iff]
    intro same
    cases (equality.mp same).2 .rsi with
    | number left _ => cases left

end Config
end IndicatorDesigner
