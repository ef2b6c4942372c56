import IndicatorDesigner.Config.Build
import IndicatorDesigner.Proofs.Answers

/-!
Settings written out and read again. The object that settings are shown as names every setting in
full, so nothing is left to defaults: whether it is submitted or loaded, the same settings come
back.
-/
namespace IndicatorDesigner

theorem PerFeature.ext_get {α : Type} {p q : PerFeature α} (h : ∀ f, p.get f = q.get f) :
    p = q := by
  cases p
  cases q
  exact PerFeature.mk.injEq .. ▸ ⟨h .rsi, h .macd, h .volume, h .price⟩

namespace Config

/-- Entries that name every setting, and nothing else. -/
structure Shows (c : Config) (entries : List (Chars × Value)) : Prop where
  lookback : Value.find? "lookback" entries = some c.lookback
  buyThreshold : Value.find? "buy_threshold" entries = some c.buyThreshold
  sellThreshold : Value.find? "sell_threshold" entries = some c.sellThreshold
  features : Value.find? "features" entries = some (mapValue (c.switches.map .bool))
  weights : Value.find? "weights" entries = some (mapValue c.weights)
  bias : Value.find? "bias" entries = some c.bias
  model : Value.find? "model" entries = some (.text c.model.label)
  markerSize : Value.find? "marker_size" entries = some (.text c.markerSize.label)
  known : ∀ entry ∈ entries, ∃ name ∈ fieldNames, entry.1 = .text name

theorem shows_toValue (c : Config) : ∃ entries, c.toValue = .object entries ∧ c.Shows entries := by
  refine ⟨_, rfl, rfl, rfl, rfl, rfl, rfl, rfl, rfl, rfl, ?_⟩
  simp [fieldNames]

/-- The settings with each switch as the truth value that it counts as. -/
def settled (c : Config) : Config := { c with features := c.switches.map .bool }

theorem toValue_settled (c : Config) : c.settled.toValue = c.toValue := rfl

theorem overridesOf_mapValue (p : PerFeature Value) :
    overridesOf (mapValue p) = .ok (.ofObject (p.entries.map fun (f, v) => (f.id, v))) := rfl

/-- A complete map overrides every default. -/
theorem mapOfEntries_withDefaults (name : String) (standard p : PerFeature Value) :
    mapOfEntries name (withDefaults standard
      (.ofObject (p.entries.map fun (f, v) => (f.id, v)))) = .ok p := rfl

theorem modelOf_label (m : Model) : modelOf (.text m.label) = .ok m := by
  simp only [modelOf, Model.ofLabel?_label]

theorem markerSizeOf_label (m : MarkerSize) : markerSizeOf (.text m.label) = .ok m := by
  simp only [markerSizeOf, MarkerSize.ofLabel?_label]

theorem Shows.assemble {c : Config} {entries : List (Chars × Value)} (h : c.Shows entries)
    (features weights : PerFeature Value) :
    Config.assemble entries features weights = .ok { c with features, weights } := by
  simp only [Config.assemble, entryOr, h.lookback, h.buyThreshold, h.sellThreshold, h.bias, h.model,
    h.markerSize, Option.getD_some, modelOf_label, markerSizeOf_label, bind, Except.bind]

/-- Settings that are loaded from what they are shown as are the same again, but for how their
switches are written. -/
theorem ofSettings_toValue (c : Config) : ofSettings c.toValue = .ok c.settled := by
  obtain ⟨entries, shown, h⟩ := c.shows_toValue
  simp only [shown, ofSettings, entryOr, h.features, h.weights, Option.getD_some,
    overridesOf_mapValue, mapOfEntries_withDefaults, h.assemble, bind, Except.bind]
  rfl

end Config

namespace Request

section Reading
variable {α : Type} {name : String} {rule : Value → Except Issue.Cause α}

theorem featureKey_id (name : String) (f : Feature) : featureKey name f.id = .ok f := by
  simp only [featureKey, Coercion.choice, Feature.ofId?_id]
  rfl

/-- A map of what a rule accepts is read entry by entry. -/
theorem mapEntries_of_accepted {written : α → Value} (accepts : ∀ a, rule (written a) = .ok a)
    (entries : List (Feature × α)) :
    mapEntries name rule (entries.map fun (f, a) => (↑f.id, written a)) = .ok entries := by
  induction entries with
  | nil => rfl
  | cons entry rest ih =>
      simp only [List.map_cons, mapEntries, featureKey_id, accepts, ih, Except.mapError]

theorem featureMap_mapValue {entries : List (Chars × Value)} {p : PerFeature α}
    {written : α → Value}
    (found : Value.find? name entries = some (Config.mapValue (p.map written)))
    (accepts : ∀ a, rule (written a) = .ok a) : featureMap entries name rule = .ok p.entries := by
  have shown : Config.mapValue (p.map written) =
      .object (p.entries.map fun (f, a) => (↑f.id, written a)) := rfl
  rw [featureMap, found, shown]
  exact mapEntries_of_accepted accepts p.entries

theorem field_of_accepted {entries : List (Chars × Value)} {standard a : α} {v : Value}
    (found : Value.find? name entries = some v) (accepted : rule v = .ok a) :
    field entries name rule standard = .ok a := by
  simp only [field, found, accepted]
  rfl

theorem submitted?_entries (p : PerFeature α) (f : Feature) :
    submitted? p.entries f = some (p.get f) := by
  cases f <;> rfl

end Reading

theorem boundedInt_int {b : Bounds Int} {n : Int} (low : b.least ≤ n) (high : n ≤ b.greatest) :
    Coercion.boundedInt b (.int n) = .ok n := by
  simp only [Coercion.boundedInt, Coercion.int, bind, Except.bind]
  rw [if_neg (by omega), if_neg (by omega)]

theorem boundedFloat_float {b : Bounds Binary64} {x : Binary64} (h : x.Between b.least b.greatest) :
    Coercion.boundedFloat b (.float x) = .ok x := by
  simp only [Coercion.boundedFloat, Coercion.float, bind, Except.bind]
  rw [if_neg (by simp [h.2.2]), if_neg (by simp [h.2.1])]

theorem choice_label {α : Type} {find? : String → Option α} {label : α → String}
    {options : List String} (inverse : ∀ a, find? (label a) = some a) (a : α) :
    Coercion.choice find? options (.text (label a)) = .ok a := by
  simp only [Coercion.choice, inverse]

theorem weightsOf_ok {entries : List (Chars × Value)} {weights : List (Feature × Binary64)}
    (read : featureMap entries "weights" Coercion.float = .ok weights)
    (ok : ∀ entry ∈ weights, entry.2.Between Bounds.weight.least Bounds.weight.greatest) :
    weightsOf entries = .ok weights := by
  have none : weights.find? (fun entry => !weightOk entry.2) = none := by
    refine List.find?_eq_none.mpr fun entry member => ?_
    simp [weightOk, (ok entry member).2.1, (ok entry member).2.2]
  simp only [weightsOf, read, none, bind, Except.bind]

theorem extraIssues_eq_nil {c : Config} {entries : List (Chars × Value)} (h : c.Shows entries) :
    extraIssues entries = [] := by
  rw [extraIssues_eq_nil_iff, List.forall_mem_map]
  intro entry member
  obtain ⟨name, known, key⟩ := h.known entry member
  exact key ▸ known

theorem ofValue_of_shows {c : Config} {entries : List (Chars × Value)} (h : c.Shows entries) :
    ofValue (.object entries) = ofEntries entries := by
  apply ofValue_of_texts
  intro entry member
  obtain ⟨name, _, key⟩ := h.known entry member
  rw [key, Chars.isText]

/-- Settings in range are accepted as they are shown, and taken as they are. -/
theorem ofValue_toValue {c : Config} (h : c.InRange) :
    ∃ r, ofValue c.toValue = .ok r ∧ r.toConfig = c := by
  obtain ⟨entries, shown, names⟩ := c.shows_toValue
  obtain ⟨n, period, low, high⟩ := h.lookback
  obtain ⟨buy, hb, buyRange⟩ := h.buyThreshold
  obtain ⟨sell, hs, sellRange⟩ := h.sellThreshold
  obtain ⟨bias, hbias, biasRange⟩ := h.bias
  choose switch switches using h.switches
  choose weight weights weightRange using h.weights
  have features : c.features = (PerFeature.ofFn switch).map .bool :=
    PerFeature.ext_get fun f => by rw [switches, PerFeature.get_map, PerFeature.get_ofFn]
  have weightMap : c.weights = (PerFeature.ofFn weight).map .float :=
    PerFeature.ext_get fun f => by rw [weights, PerFeature.get_map, PerFeature.get_ofFn]
  have shownFeatures : Value.find? "features" entries =
      some (Config.mapValue ((PerFeature.ofFn switch).map .bool)) := by
    rw [names.features, Config.switches, features]
    rfl
  have shownWeights := weightMap ▸ names.weights
  refine ⟨⟨n, buy, sell, (PerFeature.ofFn switch).entries, (PerFeature.ofFn weight).entries, bias,
    c.model, c.markerSize⟩, ?_, ?_⟩
  · have lookbackOk : lookbackOf entries = .ok n :=
      field_of_accepted names.lookback (period ▸ boundedInt_int low high)
    have buyOk : buyThresholdOf entries = .ok buy :=
      field_of_accepted names.buyThreshold (hb ▸ boundedFloat_float buyRange)
    have sellOk : sellThresholdOf entries = .ok sell :=
      field_of_accepted names.sellThreshold (hs ▸ boundedFloat_float sellRange)
    have biasOk : biasOf entries = .ok bias :=
      field_of_accepted names.bias (hbias ▸ boundedFloat_float biasRange)
    have modelOk : modelOf entries = .ok c.model :=
      field_of_accepted names.model (choice_label Model.ofLabel?_label c.model)
    have sizeOk : markerSizeOf entries = .ok c.markerSize :=
      field_of_accepted names.markerSize (choice_label MarkerSize.ofLabel?_label c.markerSize)
    have featuresOk : featuresOf entries = .ok (PerFeature.ofFn switch).entries :=
      featureMap_mapValue shownFeatures fun _ => rfl
    have weightsOk : weightsOf entries = .ok (PerFeature.ofFn weight).entries := by
      refine weightsOf_ok (featureMap_mapValue shownWeights fun _ => rfl) ?_
      intro entry member
      obtain ⟨f, _, rfl⟩ := List.mem_map.mp member
      exact PerFeature.get_ofFn weight f ▸ weightRange f
    rw [shown, ofValue_of_shows names]
    refine ofEntries_ok_iff.mpr ⟨?_, extraIssues_eq_nil names⟩
    intro s
    cases s <;> assumption
  · simp only [toConfig, submitted?_entries, Option.getD_some]
    rw [← period, ← hb, ← hs, ← hbias]
    exact congrArg₂ (fun features weights => { c with features, weights }) features.symm
      weightMap.symm

end Request

theorem Config.InRange.settled_eq {c : Config} (h : c.InRange) : c.settled = c := by
  have features : c.switches.map Value.bool = c.features := by
    refine PerFeature.ext_get fun f => ?_
    obtain ⟨b, hb⟩ := h.switches f
    rw [Config.switches, PerFeature.get_map, PerFeature.get_map, hb]
    rfl
  exact congrArg (fun features => { c with features }) features

/-- The settings of an accepted request are shown as an object that is accepted again and loaded
again. Both show the same object, in every kind of value and in the order of the keys, and have the
key and the script of the first. -/
theorem shown_settings_are_fixed {v : Value} {r : Request} (h : Request.ofValue v = .ok r) :
    let d := r.toConfig.toValue
    ∃ again settings script, Request.ofValue d = .ok again ∧ Config.ofSettings d = .ok settings ∧
      again.toConfig.toValue = d ∧ settings.toValue = d ∧
      ∀ c ∈ [r.toConfig, again.toConfig, settings], Script.generate c = .ok script ∧
        ∀ c' ∈ [r.toConfig, again.toConfig, settings], (c.key == c'.key) = true := by
  intro d
  have range := Request.inRange h
  obtain ⟨again, accepted, same⟩ := Request.ofValue_toValue range
  obtain ⟨script, generated, _⟩ := Script.generate_inRange range
  refine ⟨again, r.toConfig.settled, script, accepted, r.toConfig.ofSettings_toValue, ?_,
    r.toConfig.toValue_settled, ?_⟩
  · rw [same]
  · rw [same, range.settled_eq]
    simpa using ⟨generated, range.hashable.beq_self range.nanFree⟩

/-- Numerals, words and a negative zero, in maps that are not complete and not in order. -/
theorem shown_settings_are_fixed_for_near_values :
    let v : Value := .object [("weights", .object [("price", .text " -0.0 "), ("rsi", .int 2)]),
      ("lookback", .text "0_60.0"), ("bias", .bool true), ("model", .text "SVM (Linear Kernel)"),
      ("features", .object [("volume", .text "YES"), ("rsi", .float 0.0)]),
      ("sell_threshold", .text "1e-1")]
    ∃ r, Request.ofValue v = .ok r ∧
      let d := r.toConfig.toValue
      ∃ again settings script, Request.ofValue d = .ok again ∧ Config.ofSettings d = .ok settings ∧
        again.toConfig.toValue = d ∧ settings.toValue = d ∧
        ∀ c ∈ [r.toConfig, again.toConfig, settings], Script.generate c = .ok script ∧
          ∀ c' ∈ [r.toConfig, again.toConfig, settings], (c.key == c'.key) = true := by
  intro v
  have read : (Request.ofValue v).isOk = true := by decide +kernel
  cases accepted : Request.ofValue v with
  | error issues => rw [accepted] at read; cases read
  | ok r => exact ⟨r, rfl, shown_settings_are_fixed accepted⟩

end IndicatorDesigner
