import IndicatorDesigner.Proofs.Identity
import IndicatorDesigner.Proofs.KeyOrder

/-!
Settings that are saved and loaded again. What is saved names every setting, and loses of the
switches only how they were written: the settings that come back are saved as the same object, have
the same key and the same script or fault, and are equal to the first ones as far as these had their
switches equal to truth values.
-/
namespace IndicatorDesigner

theorem Scalar.same_comm (s t : Scalar) : s.same t = t.same s :=
  Bool.eq_iff_iff.mpr ⟨Scalar.same_symm, Scalar.same_symm⟩

theorem Value.same_bool_comm (v : Value) (b : Bool) :
    v.same (.bool b) = Value.same (.bool b) v := by
  cases v with
  | scalar s => exact Scalar.same_comm s (.bool b)
  | list items => rfl
  | object entries => rfl

namespace Config

variable {c : Config}

theorem get_settled (c : Config) (f : Feature) :
    c.settled.features.get f = .bool (c.features.get f).truthy := by
  rw [settled, switches, PerFeature.get_map, PerFeature.get_map]

/-- A switch that is settled counts as before. -/
theorem truthy_settled (c : Config) (f : Feature) :
    (c.settled.features.get f).truthy = (c.features.get f).truthy := by
  rw [get_settled]
  rfl

theorem key_settled (c : Config) : c.settled.key = c.key := by
  have switches : c.settled.switches = c.switches := switches_eq_iff.mpr c.truthy_settled
  rw [key, switches]
  rfl

/-- A script depends on what the switches count as. -/
theorem generate_settled (c : Config) : Script.generate c.settled = Script.generate c := by
  apply Script.generate_congr
  intro field
  cases field with
  | enabled f => simp only [Script.Field.literal, truthy_settled]
  | _ => rfl

/-- Settled settings are equal to what they were if each switch is equal to what it counts as. -/
theorem Proper.settled_same_iff (h : c.Proper) : c.settled.same c = true ↔
    ∀ f, (c.features.get f).same (.bool (c.features.get f).truthy) = true := by
  have others : c.settled.same c = sameMap c.settled.features c.features := by
    simp only [same, settled, h.lookback.same_self, h.buyThreshold.same_self,
      h.sellThreshold.same_self, sameMap_self h.weights, h.bias.same_self, BEq.rfl, Bool.true_and,
      Bool.and_true]
  rw [others, sameMap_iff]
  apply forall_congr'
  intro f
  rw [get_settled, Value.same_bool_comm]

/-- Settings that come back when others are saved and loaded. -/
structure Restored (c d : Config) : Prop where
  value : d.toValue = c.toValue
  key : (d.key == c.key) = true
  digest : c.key.Hashable → d.key.sameDigest c.key = true
  generation : Script.generate d = Script.generate c
  equal : d.same c = true ↔ ∀ f, (c.features.get f).same (.bool (c.features.get f).truthy) = true

/-- Settings without NaN can be loaded from what they are saved as. What comes back is saved as the
same object, in every kind of value and in the order of the keys, has the same key, and the same
script or the same fault. It is equal to the settings that were saved exactly if each of their
switches is equal to the truth value that it counts as. -/
theorem saved_settings_are_restored (proper : c.Proper) :
    ∃ d, ofSettings c.toValue = .ok d ∧ Restored c d := by
  refine ⟨c.settled, c.ofSettings_toValue, c.toValue_settled, ?_, ?_, c.generate_settled,
    proper.settled_same_iff⟩
  · rw [key_settled]
    exact proper.key_same_self
  · intro hashable
    rw [key_settled]
    exact hashable.sameDigest proper.key_same_self

/-- A period that is a list and weights that are none are saved and loaded, too. Switches that are
words do not come back, zero and one do. -/
theorem saved_settings_are_restored_but_words :
    let words : Config := { standard with
      lookback := .list [.int 1, .null], features := ⟨.text "on", .null, .float 1.0, .list []⟩,
      weights := ⟨.object [("a", .float 0.5)], .text "x", .int 3, .bool true⟩ }
    let flags : Config := { words with features := ⟨.float 1.0, .int 0, .bool true, .float (-0.0)⟩ }
    (words.Proper ∧ ∃ d, ofSettings words.toValue = .ok d ∧ Restored words d ∧
      d.same words = false) ∧
    flags.Proper ∧ ∃ d, ofSettings flags.toValue = .ok d ∧ Restored flags d ∧
      d.same flags = true := by
  intro words flags
  have period : words.lookback.Proper := by
    refine .list (List.forall_mem_cons.mpr ⟨.scalar (by decide), ?_⟩)
    exact List.forall_mem_singleton.mpr (.scalar (by decide))
  have weights : ∀ f, (words.weights.get f).Proper := by
    intro f
    cases f with
    | rsi => exact .object (by decide) (List.forall_mem_singleton.mpr (.scalar (by decide +kernel)))
    | macd => exact .scalar (by decide)
    | volume => exact .scalar (by decide)
    | price => exact .scalar (by decide)
  have wordsProper : words.Proper := by
    refine { proper_standard with lookback := period, features := ?_, weights := weights }
    intro f
    cases f with
    | rsi => exact .scalar (by decide)
    | macd => exact .scalar (by decide)
    | volume => exact .scalar (by decide +kernel)
    | price => exact .list (fun _ absent => nomatch absent)
  have flagsProper : flags.Proper := by
    refine { wordsProper with features := ?_ }
    intro f
    cases f with
    | rsi => exact .scalar (by decide +kernel)
    | macd => exact .scalar (by decide)
    | volume => exact .scalar (by decide)
    | price => exact .scalar (by decide +kernel)
  obtain ⟨d, loaded, restored⟩ := saved_settings_are_restored wordsProper
  obtain ⟨e, loaded', restored'⟩ := saved_settings_are_restored flagsProper
  refine ⟨⟨wordsProper, d, loaded, restored, ?_⟩, flagsProper, e, loaded', restored', ?_⟩
  · rw [Bool.eq_false_iff]
    intro same
    exact absurd (restored.equal.mp same .rsi) (by decide)
  · refine restored'.equal.mpr fun f => ?_
    cases f <;> decide +kernel

end Config
end IndicatorDesigner
