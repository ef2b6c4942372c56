import IndicatorDesigner.Config.Key
import Mathlib.Data.List.Forall2

/-!
Equality of settings as a relation. Among scalars it is symmetric and transitive, but a NaN is not
equal to itself. A key can be looked up when everything in it is a scalar, so the same holds among
the keys of a cache. Whether two values are identical can be decided, too.
-/
namespace IndicatorDesigner

/-- Both are nothing, the same characters, or numbers of one amount. -/
theorem Scalar.same_iff {a b : Scalar} :
    a.same b = true ↔ (a = .null ∧ b = .null) ∨ (∃ s, a = .text s ∧ b = .text s) ∨
      ∃ x, a.amount? = some x ∧ b.amount? = some x := by
  cases a <;> cases b <;> simp only [Scalar.same, Scalar.amount?] <;> grind

theorem Scalar.same_symm {a b : Scalar} (h : a.same b = true) : b.same a = true := by
  rw [Scalar.same_iff] at h ⊢
  obtain ⟨ha, hb⟩ | ⟨s, ha, hb⟩ | ⟨x, ha, hb⟩ := h
  · exact .inl ⟨hb, ha⟩
  · exact .inr (.inl ⟨s, hb, ha⟩)
  · exact .inr (.inr ⟨x, hb, ha⟩)

theorem Scalar.same_trans {a b c : Scalar} (hab : a.same b = true) (hbc : b.same c = true) :
    a.same c = true := by
  rw [Scalar.same_iff] at hab hbc ⊢
  obtain ⟨ha, rfl⟩ | ⟨s, ha, rfl⟩ | ⟨x, ha, hb⟩ := hab
  · simpa [ha, Scalar.amount?] using hbc
  · simpa [ha, Scalar.amount?] using hbc
  · obtain ⟨rfl, _⟩ | ⟨s, rfl, _⟩ | ⟨y, hb', hc⟩ := hbc
    · simp [Scalar.amount?] at hb
    · simp [Scalar.amount?] at hb
    · rw [hb, Option.some.injEq] at hb'
      exact .inr (.inr ⟨x, ha, hb' ▸ hc⟩)

theorem Scalar.same_self {s : Scalar} (h : s ≠ .float .nan) : s.same s = true := by
  rw [Scalar.same_iff]
  cases s with
  | null => exact .inl ⟨rfl, rfl⟩
  | text t => exact .inr (.inl ⟨t, rfl, rfl⟩)
  | bool b => exact .inr (.inr ⟨_, rfl, rfl⟩)
  | int n => exact .inr (.inr ⟨_, rfl, rfl⟩)
  | float x =>
      cases x with
      | finite negative m e canonical => exact .inr (.inr ⟨_, rfl, rfl⟩)
      | infinite negative => exact .inr (.inr ⟨_, rfl, rfl⟩)
      | nan => exact absurd rfl h

namespace Value

/-- A value that can be part of a key. -/
def IsScalar (v : Value) : Prop := ∃ s, v = .scalar s

theorem same_scalar (a b : Scalar) : same (.scalar a) (.scalar b) = a.same b := rfl

theorem IsScalar.of_same {a b : Value} (ha : a.IsScalar) (h : a.same b = true) : b.IsScalar := by
  obtain ⟨s, rfl⟩ := ha
  cases b with
  | scalar t => exact ⟨t, rfl⟩
  | list items => simp [same] at h
  | object entries => simp [same] at h

theorem IsScalar.same_symm {a b : Value} (ha : a.IsScalar) (h : a.same b = true) :
    b.same a = true := by
  obtain ⟨t, rfl⟩ := ha.of_same h
  obtain ⟨s, rfl⟩ := ha
  exact Scalar.same_symm h

theorem IsScalar.same_trans {a b c : Value} (ha : a.IsScalar) (hab : a.same b = true)
    (hbc : b.same c = true) : a.same c = true := by
  obtain ⟨t, rfl⟩ := ha.of_same hab
  obtain ⟨u, rfl⟩ := IsScalar.of_same ⟨t, rfl⟩ hbc
  obtain ⟨s, rfl⟩ := ha
  exact Scalar.same_trans hab hbc

mutual

/-- Whether two values are identical, the order of entries included. -/
def identical : Value → Value → Bool
  | .scalar s, .scalar t => s == t
  | .list items, .list others => identicalItems items others
  | .object entries, .object others => identicalEntries entries others
  | _, _ => false
termination_by structural v => v

def identicalItems : List Value → List Value → Bool
  | [], [] => true
  | v :: rest, w :: others => identical v w && identicalItems rest others
  | _, _ => false
termination_by structural vs => vs

def identicalEntries : List (Chars × Value) → List (Chars × Value) → Bool
  | [], [] => true
  | (key, v) :: rest, (other, w) :: others =>
    key == other && identical v w && identicalEntries rest others
  | _, _ => false
termination_by structural es => es

end

mutual

theorem identical_iff (v w : Value) : identical v w = true ↔ v = w := by
  cases v with
  | scalar s => cases w <;> simp [identical]
  | list items =>
      cases w with
      | list others => simp [identical, identicalItems_iff items others]
      | _ => simp [identical]
  | object entries =>
      cases w with
      | object others => simp [identical, identicalEntries_iff entries others]
      | _ => simp [identical]

theorem identicalItems_iff (items others : List Value) :
    identicalItems items others = true ↔ items = others := by
  cases items with
  | nil => cases others <;> simp [identicalItems]
  | cons v rest =>
      cases others with
      | nil => simp [identicalItems]
      | cons w others => simp [identicalItems, identical_iff v w, identicalItems_iff rest others]

theorem identicalEntries_iff (entries others : List (Chars × Value)) :
    identicalEntries entries others = true ↔ entries = others := by
  cases entries with
  | nil => cases others <;> simp [identicalEntries]
  | cons entry rest =>
      obtain ⟨key, v⟩ := entry
      cases others with
      | nil => simp [identicalEntries]
      | cons other others =>
          simp [identicalEntries, identical_iff v other.2, identicalEntries_iff rest others,
            Prod.ext_iff]

end

instance : DecidableEq Value := fun v w => decidable_of_iff _ (identical_iff v w)

end Value

namespace Config

theorem sameMap_iff {p q : PerFeature Value} :
    sameMap p q = true ↔ ∀ f, (p.get f).same (q.get f) = true := by
  simp only [sameMap, Feature.all, List.all_cons, List.all_nil, Bool.and_true, Bool.and_eq_true]
  constructor
  · rintro ⟨rsi, macd, volume, price⟩ f
    cases f <;> assumption
  · intro h
    exact ⟨h .rsi, h .macd, h .volume, h .price⟩

namespace Key

/-- Everything in the key is a scalar. -/
def Hashable (k : Key) : Prop := ∀ v ∈ k.values, v.IsScalar

theorem unhashable?_eq_none_iff (k : Key) : k.unhashable? = none ↔ k.Hashable := by
  rw [unhashable?, List.findSome?_eq_none_iff]
  apply forall₂_congr
  intro v _
  cases v <;> simp [Value.IsScalar]

theorem Hashable.lookback {k : Key} (h : k.Hashable) : k.lookback.IsScalar :=
  h _ (by simp [values])

theorem Hashable.buyThreshold {k : Key} (h : k.Hashable) : k.buyThreshold.IsScalar :=
  h _ (by simp [values])

theorem Hashable.sellThreshold {k : Key} (h : k.Hashable) : k.sellThreshold.IsScalar :=
  h _ (by simp [values])

theorem Hashable.weight {k : Key} (h : k.Hashable) (f : Feature) : (k.weights.get f).IsScalar :=
  h _ (by cases f <;> simp [values, PerFeature.toList, Feature.all])

theorem Hashable.bias {k : Key} (h : k.Hashable) : k.bias.IsScalar := h _ (by simp [values])

theorem beq_eq_same (a b : Key) : (a == b) = a.same b := rfl

/-- Equal keys hold the same numbers and texts, and identical switches and choices. -/
theorem beq_iff {a b : Key} : (a == b) = true ↔
    List.Forall₂ (fun v w => v.same w = true) a.values b.values ∧ a.switches = b.switches ∧
      a.model = b.model ∧ a.markerSize = b.markerSize := by
  simp only [beq_eq_same, same, Bool.and_eq_true, beq_iff_eq, sameMap_iff, values,
    PerFeature.toList, Feature.all, List.map_cons, List.map_nil, List.cons_append,
    List.nil_append, List.forall₂_cons, List.Forall₂.nil, and_true]
  constructor
  · rintro ⟨⟨⟨⟨⟨⟨⟨lookback, buy⟩, sell⟩, switches⟩, weights⟩, bias⟩, model⟩, size⟩
    exact ⟨⟨lookback, buy, sell, weights .rsi, weights .macd, weights .volume, weights .price,
      bias⟩, switches, model, size⟩
  · rintro ⟨⟨lookback, buy, sell, rsi, macd, volume, price, bias⟩, switches, model, size⟩
    refine ⟨⟨⟨⟨⟨⟨⟨lookback, buy⟩, sell⟩, switches⟩, ?_⟩, bias⟩, model⟩, size⟩
    intro f
    cases f <;> assumption

theorem Hashable.of_beq {a b : Key} (ha : a.Hashable) (h : (a == b) = true) : b.Hashable := by
  intro w hw
  obtain ⟨i, hi, rfl⟩ := List.getElem_of_mem hw
  have parts := (beq_iff.mp h).1
  have hi' : i < a.values.length := parts.length_eq ▸ hi
  exact (ha _ (List.getElem_mem hi')).of_same (parts.get hi' hi)

theorem Hashable.beq_symm {a b : Key} (ha : a.Hashable) (h : (a == b) = true) :
    (b == a) = true := by
  obtain ⟨parts, switches, model, size⟩ := beq_iff.mp h
  refine beq_iff.mpr ⟨?_, switches.symm, model.symm, size.symm⟩
  rw [List.forall₂_iff_get] at parts ⊢
  refine ⟨parts.1.symm, ?_⟩
  intro i hb hai
  exact (ha _ (List.get_mem _ _)).same_symm (parts.2 i hai hb)

theorem Hashable.beq_trans {a b c : Key} (ha : a.Hashable) (hab : (a == b) = true)
    (hbc : (b == c) = true) : (a == c) = true := by
  obtain ⟨ab, switches, model, size⟩ := beq_iff.mp hab
  obtain ⟨bc, switches', model', size'⟩ := beq_iff.mp hbc
  refine beq_iff.mpr ⟨?_, switches.trans switches', model.trans model', size.trans size'⟩
  rw [List.forall₂_iff_get] at ab bc ⊢
  refine ⟨ab.1.trans bc.1, ?_⟩
  intro i hai hci
  have hbi : i < b.values.length := ab.1 ▸ hai
  exact (ha _ (List.get_mem _ _)).same_trans (ab.2 i hai hbi) (bc.2 i hbi hci)

/-- No number of the key is a NaN. -/
def NanFree (k : Key) : Prop := ∀ v ∈ k.values, v ≠ .float .nan

instance (k : Key) : Decidable k.NanFree := inferInstanceAs (Decidable (∀ v ∈ k.values, _))

theorem Hashable.beq_self {k : Key} (h : k.Hashable) (free : k.NanFree) : (k == k) = true := by
  refine beq_iff.mpr ⟨?_, rfl, rfl, rfl⟩
  rw [List.forall₂_same]
  intro v hv
  obtain ⟨s, rfl⟩ := h v hv
  exact Scalar.same_self fun e => free _ hv (congrArg Value.scalar e)

end Key

/-- Periods that are whole numbers are the same one under equal keys. -/
theorem lookback_eq_of_int {a b : Config} {m n : Int} (ha : a.lookback = .int m)
    (hb : b.lookback = .int n) (h : (a.key == b.key) = true) : a.lookback = b.lookback := by
  have periods : a.lookback.same b.lookback = true := by
    have parts := (Key.beq_iff.mp h).1
    exact (List.forall₂_cons.mp parts).1
  rw [ha, hb, Value.same_scalar, Scalar.same_iff] at periods
  rw [ha, hb]
  simpa [Scalar.amount?, eq_comm] using periods

end Config
end IndicatorDesigner
