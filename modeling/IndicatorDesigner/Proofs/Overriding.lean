import IndicatorDesigner.Proofs.Entries
import IndicatorDesigner.Proofs.Normalization

/-!
Settings from an object. Each setting is the entry of the object or else the default, and so is each
entry of the two maps. Only a key that names no feature and a choice that is not offered are wrong;
of several faults the first is reported, in the order of the settings that are judged.
-/
namespace IndicatorDesigner

namespace Config

open Value (Distinct)

variable {entries items : List (Chars × Value)} {name : String}

/-- What a setting is that is a map: left out, counted as false, or an object. -/
def GivenAsMap (entries : List (Chars × Value)) (name : String) : Prop :=
  ∀ v, Value.find? name entries = some v → v.truthy = false ∨ ∃ items, v = .object items

/-- The entries of a setting that is a map. -/
def itemsOf (entries : List (Chars × Value)) (name : String) : List (Chars × Value) :=
  match Value.find? name entries with
  | some (.object items) => items
  | _ => []

/-- The keys that name no feature, in their order. -/
def unknownKeys (items : List (Chars × Value)) : List Chars :=
  (items.map Prod.fst).filter (· ∉ Feature.all.map fun f => (f.id : Chars))

/-- A value that is given and not offered. -/
def notOffered (options : List String) (given? : Option Value) : List Value :=
  given?.toList.filter (· ∉ options.map Value.text)

/-- Everything that is wrong with an object of settings, in the order in which it is judged. -/
def faults (entries : List (Chars × Value)) : List Fault :=
  (unknownKeys (itemsOf entries "features")).map (fun key => .unknownFeature (.chars key)) ++
    (unknownKeys (itemsOf entries "weights")).map (fun key => .unknownFeature (.chars key)) ++
    (notOffered (Model.all.map Model.label) (Value.find? "model" entries)).map .unknownModel ++
    (notOffered (MarkerSize.all.map MarkerSize.label) (Value.find? "marker_size" entries)).map
      .unknownMarkerSize

/-- The faults that name a value which is none of its kind. A map that is not complete is none of
them. -/
inductive Fault.Names : Fault → Value → String → Prop
  | feature (key : Value) : Names (.unknownFeature key) key "FeatureId"
  | model (v : Value) : Names (.unknownModel v) v "ModelType"
  | markerSize (v : Value) : Names (.unknownMarkerSize v) v "MarkerSize"

theorem Fault.Names.message {fault : Fault} {v : Value} {kind : String} (h : fault.Names v kind) :
    fault.message =
      if v.tooLong then Numeral.tooLongToWrite else v.quoted ++ " is not a valid " ++ kind := by
  cases h <;> rfl

/-- The entries of a map over the features, and the defaults for the features without one. -/
def overridden (standard : PerFeature Value) (items : List (Chars × Value)) : PerFeature Value :=
  .ofFn fun f => (Value.find? f.id items).getD (standard.get f)

/-- Settings that are the defaults but for what an object says. -/
structure Overrides (entries : List (Chars × Value)) (c : Config) : Prop where
  lookback : c.lookback = (Value.find? "lookback" entries).getD standard.lookback
  buyThreshold : c.buyThreshold = (Value.find? "buy_threshold" entries).getD standard.buyThreshold
  sellThreshold :
    c.sellThreshold = (Value.find? "sell_threshold" entries).getD standard.sellThreshold
  features : c.features.entries = [Feature.rsi, .macd, .volume, .price].map fun f =>
    (f, (Value.find? f.id (itemsOf entries "features")).getD (.bool f.enabledByDefault))
  weights : c.weights.entries = [Feature.rsi, .macd, .volume, .price].map fun f =>
    (f, (Value.find? f.id (itemsOf entries "weights")).getD (.float f.defaultWeight))
  bias : c.bias = (Value.find? "bias" entries).getD standard.bias
  model : (Value.find? "model" entries).getD (.text standard.model.label) = .text c.model.label
  markerSize : (Value.find? "marker_size" entries).getD (.text standard.markerSize.label) =
    .text c.markerSize.label

/-! Maps -/

theorem overridesOf_itemsOf (given : GivenAsMap entries name) :
    overridesOf (entryOr entries name .null) = .ok (.ofObject (itemsOf entries name)) := by
  rw [entryOr]
  unfold itemsOf
  cases found : Value.find? name entries with
  | none => rfl
  | some v =>
      rw [Option.getD_some]
      rcases given v found with off | ⟨items, rfl⟩
      · unfold overridesOf
        rw [if_neg (by simp [off])]
        cases v with
        | scalar s => rfl
        | list items => rfl
        | object items =>
            have none : items = [] := by simpa [Value.truthy] using off
            rw [none]
            rfl
      · cases items <;> rfl

theorem featureOf?_eq_some_iff {key : Chars} {f : Feature} :
    featureOf? (.chars key) = some f ↔ key = f.id := by
  cases key with
  | broken points => simp [featureOf?]
  | text name =>
      constructor
      · intro named
        change Feature.all.find? (fun f => f.id == name) = some f at named
        have same := List.find?_some named
        rw [eq_of_beq same]
      · intro same
        rw [same]
        exact Feature.ofId?_id f

theorem featureOf?_isNone_iff {key : Chars} :
    (featureOf? (.chars key)).isNone = true ↔ key ∉ Feature.all.map fun f => (f.id : Chars) := by
  rw [Option.isNone_iff_eq_none, Option.eq_none_iff_forall_ne_some]
  simp only [ne_eq, featureOf?_eq_some_iff, List.mem_map, not_exists, not_and]
  refine forall_congr' fun f => ?_
  cases f <;> simp [Feature.all, eq_comm]

theorem ofObject_eq_map (items : List (Chars × Value)) :
    Entries.ofObject items = items.map fun entry => (.chars entry.1, entry.2) := rfl

theorem withDefaults_eq_append (standard : PerFeature Value) (overrides : Entries) :
    withDefaults standard overrides =
      standard.entries.map (fun entry => (.text entry.1.id, entry.2)) ++ overrides := rfl

/-- No default has a wrong key, so the first wrong key is one of the object. -/
theorem badKey?_withDefaults (standard : PerFeature Value) (items : List (Chars × Value)) :
    (withDefaults standard (.ofObject items)).badKey? = (unknownKeys items).head?.map .chars := by
  have defaults (f : Feature) : (featureOf? (.text f.id)).isNone = false := by
    cases f <;> decide
  have wrong : ((fun entry : Value × Value => (featureOf? entry.1).isNone) ∘
      fun entry : Chars × Value => (.chars entry.1, entry.2)) =
      (fun key => decide (key ∉ Feature.all.map fun f => (f.id : Chars))) ∘ Prod.fst := by
    funext entry
    rw [Bool.eq_iff_iff]
    exact featureOf?_isNone_iff.trans decide_eq_true_iff.symm
  have own : (Entries.ofObject items).badKey? = (unknownKeys items).head?.map .chars := by
    rw [Entries.badKey?, ofObject_eq_map, List.find?_map, Option.map_map, wrong, unknownKeys,
      List.head?_filter, List.find?_map, Option.map_map]
    rfl
  rw [← own]
  simp [Entries.badKey?, withDefaults_eq_append, PerFeature.entries, Feature.all, defaults]

/-- The last entry of a feature is its only one, or the default. -/
theorem last?_withDefaults (standard : PerFeature Value) (once : Distinct items) (f : Feature) :
    (withDefaults standard (.ofObject items)).last? f =
      some ((overridden standard items).get f) := by
  have own (items : List (Chars × Value)) :
      ((Entries.ofObject items).find? fun entry => featureOf? entry.1 == some f).map (·.2) =
        Value.find? f.id items := by
    induction items with
    | nil => rfl
    | cons entry rest ih =>
        obtain ⟨key, v⟩ := entry
        have named : (featureOf? (.chars key) == some f) = (key == (f.id : Chars)) := by
          rw [Bool.eq_iff_iff, beq_iff_eq, beq_iff_eq, featureOf?_eq_some_iff]
        rw [ofObject_eq_map] at ih ⊢
        simp only [List.map_cons, List.find?_cons, named, Value.find?]
        split <;> simp_all
  have default : (standard.entries.map
      fun entry => ((.text entry.1.id, entry.2) : Value × Value)).reverse.find?
        (fun entry => featureOf? entry.1 == some f) = some (.text f.id, standard.get f) := by
    cases f <;> rfl
  have last : (Entries.ofObject items).reverse = Entries.ofObject items.reverse :=
    List.map_reverse.symm
  rw [Entries.last?, withDefaults_eq_append, List.reverse_append, List.find?_append, default, last,
    overridden, PerFeature.get_ofFn, once.find?_perm items.reverse_perm.symm, ← own]
  cases (Entries.ofObject items.reverse).find? fun entry => featureOf? entry.1 == some f <;> rfl

theorem mapOfEntries_of_unknown (name : String) (standard : PerFeature Value) {key : Chars}
    {rest : List Chars} (unknown : unknownKeys items = key :: rest) :
    mapOfEntries name (withDefaults standard (.ofObject items)) =
      .error (.unknownFeature (.chars key)) := by
  rw [mapOfEntries, badKey?_withDefaults, unknown]
  rfl

/-- The defaults make a map complete, whatever the object leaves out. -/
theorem mapOfEntries_of_known (name : String) (standard : PerFeature Value)
    (once : Distinct items) (known : unknownKeys items = []) :
    mapOfEntries name (withDefaults standard (.ofObject items)) =
      .ok (overridden standard items) := by
  rw [mapOfEntries, badKey?_withDefaults, known]
  simp only [List.head?_nil, Option.map_none, last?_withDefaults standard once]
  rfl

/-! Choices -/

theorem notOffered_eq_nil_iff {options : List String} {given? : Option Value} :
    notOffered options given? = [] ↔ ∀ v, given? = some v → v ∈ options.map Value.text := by
  rw [notOffered, List.filter_eq_nil_iff]
  simp only [Option.mem_toList, decide_eq_true_eq, not_not]

theorem notOffered_eq_cons {options : List String} {given? : Option Value} {v : Value}
    {rest : List Value} (h : notOffered options given? = v :: rest) :
    given? = some v ∧ v ∉ options.map Value.text := by
  have member : v ∈ notOffered options given? := h ▸ List.mem_cons_self
  obtain ⟨given, other⟩ := List.mem_filter.mp member
  exact ⟨Option.mem_toList.mp given, of_decide_eq_true other⟩

theorem find?_label_eq_none {α : Type} {all : List α} {label : α → String} {name : String}
    (h : Value.text name ∉ (all.map label).map Value.text) :
    all.find? (fun a => label a == name) = none := by
  refine List.find?_eq_none.mpr fun a member same => h ?_
  rw [← eq_of_beq same]
  exact List.mem_map_of_mem (List.mem_map_of_mem member)

theorem modelOf_of_notOffered {v : Value}
    (h : v ∉ (Model.all.map Model.label).map Value.text) :
    modelOf v = .error (.unknownModel v) := by
  unfold modelOf
  split
  · simp only [Model.ofLabel?, find?_label_eq_none h]
  · rfl

theorem markerSizeOf_of_notOffered {v : Value}
    (h : v ∉ (MarkerSize.all.map MarkerSize.label).map Value.text) :
    markerSizeOf v = .error (.unknownMarkerSize v) := by
  unfold markerSizeOf
  split
  · simp only [MarkerSize.ofLabel?, find?_label_eq_none h]
  · rfl

/-- A choice that is offered or left out is the choice of some label. -/
theorem chosen_of_offered {α : Type} {all : List α} {label : α → String} {given? : Option Value}
    (offered : notOffered (all.map label) given? = []) (standard : α) :
    ∃ a, given?.getD (.text (label standard)) = .text (label a) := by
  cases given? with
  | none => exact ⟨standard, rfl⟩
  | some v =>
      have member := notOffered_eq_nil_iff.mp offered v rfl
      simp only [List.map_map, List.mem_map] at member
      obtain ⟨a, _, same⟩ := member
      exact ⟨a, same.symm⟩

/-! Settings -/

/-- Once the maps are read, what is left are two maps without wrong keys and two choices. -/
theorem ofSettings_eq (features : GivenAsMap entries "features")
    (weights : GivenAsMap entries "weights") :
    ofSettings (.object entries) = (do
      let switches ← mapOfEntries "features"
        (withDefaults standard.features (.ofObject (itemsOf entries "features")))
      let numbers ← mapOfEntries "weights"
        (withDefaults standard.weights (.ofObject (itemsOf entries "weights")))
      assemble entries switches numbers) := by
  simp only [ofSettings, overridesOf_itemsOf features, overridesOf_itemsOf weights]
  rfl

theorem assemble_of_chosen (switches numbers : PerFeature Value) {m : Model} {size : MarkerSize}
    (model : (Value.find? "model" entries).getD (.text standard.model.label) = .text m.label)
    (markerSize : (Value.find? "marker_size" entries).getD (.text standard.markerSize.label) =
      .text size.label) :
    assemble entries switches numbers = .ok
      { lookback := (Value.find? "lookback" entries).getD standard.lookback
        buyThreshold := (Value.find? "buy_threshold" entries).getD standard.buyThreshold
        sellThreshold := (Value.find? "sell_threshold" entries).getD standard.sellThreshold
        features := switches
        weights := numbers
        bias := (Value.find? "bias" entries).getD standard.bias
        model := m
        markerSize := size } := by
  simp only [assemble, entryOr, model, markerSize, modelOf_label, markerSizeOf_label]
  rfl

/-- An object without faults gives settings, and these are the defaults but for what it says. -/
theorem ofSettings_of_faultless (features : GivenAsMap entries "features")
    (weights : GivenAsMap entries "weights") (onceFeatures : Distinct (itemsOf entries "features"))
    (onceWeights : Distinct (itemsOf entries "weights")) (faultless : faults entries = []) :
    ∃ c, ofSettings (.object entries) = .ok c ∧ Overrides entries c := by
  simp only [faults, List.append_eq_nil_iff, List.map_eq_nil_iff] at faultless
  obtain ⟨⟨⟨knownFeatures, knownWeights⟩, modelOffered⟩, sizeOffered⟩ := faultless
  obtain ⟨model, chosenModel⟩ := chosen_of_offered modelOffered standard.model
  obtain ⟨size, chosenSize⟩ := chosen_of_offered sizeOffered standard.markerSize
  have maps : ofSettings (.object entries) = assemble entries
      (overridden standard.features (itemsOf entries "features"))
      (overridden standard.weights (itemsOf entries "weights")) := by
    rw [ofSettings_eq features weights,
      mapOfEntries_of_known "features" _ onceFeatures knownFeatures,
      mapOfEntries_of_known "weights" _ onceWeights knownWeights]
    rfl
  exact ⟨_, maps.trans (assemble_of_chosen _ _ chosenModel chosenSize),
    ⟨rfl, rfl, rfl, rfl, rfl, rfl, chosenModel, chosenSize⟩⟩

theorem assemble_of_faults (switches numbers : PerFeature Value) {fault : Fault}
    (first : ((notOffered (Model.all.map Model.label) (Value.find? "model" entries)).map
        Fault.unknownModel ++
      (notOffered (MarkerSize.all.map MarkerSize.label) (Value.find? "marker_size" entries)).map
        Fault.unknownMarkerSize).head? = some fault) :
    assemble entries switches numbers = .error fault := by
  cases model : notOffered (Model.all.map Model.label) (Value.find? "model" entries) with
  | cons v rest =>
      obtain ⟨given, other⟩ := notOffered_eq_cons model
      rw [model] at first
      simp only [assemble, entryOr, given, Option.getD_some, modelOf_of_notOffered other]
      exact congrArg Except.error (Option.some.inj first)
  | nil =>
      obtain ⟨m, chosen⟩ := chosen_of_offered model standard.model
      cases size : notOffered (MarkerSize.all.map MarkerSize.label)
          (Value.find? "marker_size" entries) with
      | cons v rest =>
          obtain ⟨given, other⟩ := notOffered_eq_cons size
          rw [model, size] at first
          simp only [assemble, entryOr, chosen, modelOf_label, given, Option.getD_some,
            markerSizeOf_of_notOffered other]
          exact congrArg Except.error (Option.some.inj first)
      | nil =>
          rw [model, size] at first
          cases first

/-- Of several faults the first is reported. -/
theorem ofSettings_of_faults (features : GivenAsMap entries "features")
    (weights : GivenAsMap entries "weights") (onceFeatures : Distinct (itemsOf entries "features"))
    (onceWeights : Distinct (itemsOf entries "weights")) {fault : Fault}
    (first : (faults entries).head? = some fault) :
    ofSettings (.object entries) = .error fault := by
  rw [faults, List.append_assoc] at first
  rw [ofSettings_eq features weights]
  cases knownFeatures : unknownKeys (itemsOf entries "features") with
  | cons key rest =>
      rw [knownFeatures] at first
      rw [mapOfEntries_of_unknown "features" _ knownFeatures, ← Option.some.inj first]
      rfl
  | nil =>
      rw [mapOfEntries_of_known "features" _ onceFeatures knownFeatures]
      cases knownWeights : unknownKeys (itemsOf entries "weights") with
      | cons key rest =>
          rw [knownFeatures, knownWeights] at first
          rw [mapOfEntries_of_unknown "weights" _ knownWeights, ← Option.some.inj first]
          rfl
      | nil =>
          rw [knownFeatures, knownWeights] at first
          rw [mapOfEntries_of_known "weights" _ onceWeights knownWeights]
          exact assemble_of_faults _ _ first

theorem ofSettings_cases (features : GivenAsMap entries "features")
    (weights : GivenAsMap entries "weights") (onceFeatures : Distinct (itemsOf entries "features"))
    (onceWeights : Distinct (itemsOf entries "weights")) :
    (faults entries = [] ∧ ∃ c, ofSettings (.object entries) = .ok c ∧ Overrides entries c) ∨
      ∃ fault, (faults entries).head? = some fault ∧
        ofSettings (.object entries) = .error fault := by
  cases first : (faults entries).head? with
  | none =>
      have faultless : faults entries = [] := List.head?_eq_none_iff.mp first
      exact .inl ⟨faultless,
        ofSettings_of_faultless features weights onceFeatures onceWeights faultless⟩
  | some fault =>
      exact .inr ⟨fault, rfl, ofSettings_of_faults features weights onceFeatures onceWeights first⟩

theorem names_of_mem_faults {fault : Fault} (h : fault ∈ faults entries) :
    ∃ v kind, fault.Names v kind := by
  simp only [faults, List.mem_append, List.mem_map] at h
  rcases h with ((⟨key, _, rfl⟩ | ⟨key, _, rfl⟩) | ⟨v, _, rfl⟩) | ⟨v, _, rfl⟩
  · exact ⟨_, _, .feature _⟩
  · exact ⟨_, _, .feature _⟩
  · exact ⟨_, _, .model v⟩
  · exact ⟨_, _, .markerSize v⟩

end Config
end IndicatorDesigner
