import IndicatorDesigner.Proofs.Overriding

/-!
The order of keys. What is found under a key does not depend on where the key stands, so an object
of settings can be reordered, and its two maps with it: the same settings come out, or none at all.
Only which of several faults is reported may change.
-/
namespace IndicatorDesigner

theorem PerFeature.entries_inj {α : Type} {p q : PerFeature α} (h : p.entries = q.entries) :
    p = q := by
  refine PerFeature.ext_get fun f => ?_
  have each := List.map_inj_left.mp h f (by cases f <;> decide)
  exact (Prod.mk.inj each).2

theorem eq_of_label_eq {α : Type} {find? : String → Option α} {label : α → String}
    (inverse : ∀ a, find? (label a) = some a) {a b : α} (h : label a = label b) : a = b :=
  Option.some.inj ((inverse a).symm.trans (h ▸ inverse b))

namespace Value

/-- A value without NaN, in whose objects no key stands twice. -/
inductive Proper : Value → Prop
  | scalar {s : Scalar} (number : s ≠ .float .nan) : Proper (.scalar s)
  | list {items : List Value} (each : ∀ v ∈ items, Proper v) : Proper (.list items)
  | object {entries : List (Chars × Value)} (once : Distinct entries)
      (each : ∀ entry ∈ entries, Proper entry.2) : Proper (.object entries)

theorem sameItems_self {items : List Value} (each : ∀ v ∈ items, same v v = true) :
    sameItems items items = true := by
  induction items with
  | nil => rfl
  | cons v rest ih =>
      obtain ⟨first, others⟩ := List.forall_mem_cons.mp each
      rw [sameItems, first, ih others, Bool.and_self]

theorem sameEntries_of_found {part whole : List (Chars × Value)}
    (found : ∀ entry ∈ part, find? entry.1 whole = some entry.2)
    (each : ∀ entry ∈ part, same entry.2 entry.2 = true) : sameEntries part whole = true := by
  induction part with
  | nil => rfl
  | cons entry rest ih =>
      obtain ⟨here, there⟩ := List.forall_mem_cons.mp found
      obtain ⟨first, others⟩ := List.forall_mem_cons.mp each
      rw [sameEntries, here, ih there others, Bool.and_true]
      exact first

/-- Such a value is equal to itself. -/
theorem Proper.same_self {v : Value} (h : v.Proper) : v.same v = true := by
  induction h with
  | scalar number => exact Scalar.same_self number
  | list _ ih => exact sameItems_self ih
  | object once _ ih =>
      have found := sameEntries_of_found
        (fun entry member => once.find?_eq_some_iff.mpr member) ih
      rw [same, found, BEq.rfl, Bool.and_self]

theorem Proper.getD {entries : List (Chars × Value)} (h : (Value.object entries).Proper)
    (key : Chars) {standard : Value} (default : standard.Proper) :
    ((find? key entries).getD standard).Proper := by
  cases found : find? key entries with
  | none => exact default
  | some v =>
      cases h with
      | object _ each => exact each _ (mem_of_find? found)

end Value

namespace Config

open Value (Distinct)

variable {entries others : List (Chars × Value)} {c d : Config}

/-! Equal settings -/

/-- Settings without NaN, in whose objects no key stands twice. -/
structure Proper (c : Config) : Prop where
  lookback : c.lookback.Proper
  buyThreshold : c.buyThreshold.Proper
  sellThreshold : c.sellThreshold.Proper
  features : ∀ f, (c.features.get f).Proper
  weights : ∀ f, (c.weights.get f).Proper
  bias : c.bias.Proper

theorem sameMap_self {p : PerFeature Value} (each : ∀ f, (p.get f).Proper) :
    sameMap p p = true :=
  sameMap_iff.mpr fun f => (each f).same_self

theorem Proper.same_self (h : c.Proper) : c.same c = true := by
  simp only [same, h.lookback.same_self, h.buyThreshold.same_self, h.sellThreshold.same_self,
    sameMap_self h.features, sameMap_self h.weights, h.bias.same_self, BEq.rfl, Bool.and_self]

theorem Proper.key_same_self (h : c.Proper) : (c.key == c.key) = true := by
  simp only [Key.beq_eq_same, Key.same, key, h.lookback.same_self, h.buyThreshold.same_self,
    h.sellThreshold.same_self, sameMap_self h.weights, h.bias.same_self, BEq.rfl, Bool.and_self]

theorem proper_standard : standard.Proper where
  lookback := .scalar (by decide)
  buyThreshold := .scalar (by decide)
  sellThreshold := .scalar (by decide)
  features := fun f => by cases f <;> exact .scalar (by decide)
  weights := fun f => by cases f <;> exact .scalar (by decide)
  bias := .scalar (by decide)

/-- Settings that nothing tells apart: the maps they keep, equality, the key, what they are shown
as, and what comes of generating a script. -/
structure Alike (c d : Config) : Prop where
  features : d.features.entries = c.features.entries
  weights : d.weights.entries = c.weights.entries
  equal : c.same d = true
  key : (c.key == d.key) = true
  value : d.toValue = c.toValue
  generation : Script.generate d = Script.generate c

theorem Proper.alike (h : c.Proper) : Alike c c :=
  ⟨rfl, rfl, h.same_self, h.key_same_self, rfl, rfl⟩

theorem proper_itemsOf (h : (Value.object entries).Proper) (name : String) :
    (Value.object (itemsOf entries name)).Proper := by
  unfold itemsOf
  split
  · rename_i items found
    cases h with
    | object _ each => exact each _ (Value.mem_of_find? found)
  · exact .object List.nodup_nil (fun _ absent => nomatch absent)

theorem Overrides.proper (h : Overrides entries c) (proper : (Value.object entries).Proper) :
    c.Proper := by
  have features : c.features = overridden standard.features (itemsOf entries "features") :=
    PerFeature.entries_inj h.features
  have weights : c.weights = overridden standard.weights (itemsOf entries "weights") :=
    PerFeature.entries_inj h.weights
  constructor
  · exact h.lookback ▸ proper.getD _ proper_standard.lookback
  · exact h.buyThreshold ▸ proper.getD _ proper_standard.buyThreshold
  · exact h.sellThreshold ▸ proper.getD _ proper_standard.sellThreshold
  · intro f
    rw [features, overridden, PerFeature.get_ofFn]
    exact (proper_itemsOf proper _).getD _ (proper_standard.features f)
  · intro f
    rw [weights, overridden, PerFeature.get_ofFn]
    exact (proper_itemsOf proper _).getD _ (proper_standard.weights f)
  · exact h.bias ▸ proper.getD _ proper_standard.bias

/-! Reordered settings -/

/-- An entry as it is, or a map over the features with its entries in another order. -/
inductive ReorderedEntry : Chars × Value → Chars × Value → Prop
  | kept (entry : Chars × Value) : ReorderedEntry entry entry
  | map {name : String} (isMap : name ∈ ["features", "weights"])
      {items items' : List (Chars × Value)} (order : items.Perm items') :
      ReorderedEntry (name, .object items) (name, .object items')

/-- The same settings in another order, of the object itself and of its two maps. -/
def Reordered (entries others : List (Chars × Value)) : Prop :=
  ∃ between, List.Forall₂ ReorderedEntry entries between ∧ between.Perm others

/-- Settings in which no key stands twice, neither in the object nor in its maps. -/
structure OnceKeyed (entries : List (Chars × Value)) : Prop where
  own : Distinct entries
  items : ∀ name, Distinct (itemsOf entries name)

theorem OnceKeyed.of_proper (h : (Value.object entries).Proper) : OnceKeyed entries := by
  constructor
  · cases h with
    | object once _ => exact once
  · intro name
    cases proper_itemsOf h name with
    | object once _ => exact once

theorem ReorderedEntry.symm {entry entry' : Chars × Value} (h : ReorderedEntry entry entry') :
    ReorderedEntry entry' entry := by
  cases h with
  | kept => exact .kept _
  | map isMap order => exact .map isMap order.symm

theorem ReorderedEntry.key_eq {entry entry' : Chars × Value} (h : ReorderedEntry entry entry') :
    entry.1 = entry'.1 := by
  cases h <;> rfl

theorem Reordered.symm (h : Reordered entries others) : Reordered others entries := by
  obtain ⟨between, each, order⟩ := h
  have back : List.Forall₂ ReorderedEntry between entries :=
    .flip (each.imp fun _ _ => ReorderedEntry.symm)
  exact List.perm_comp_forall₂ order.symm back

theorem map_fst_of_forall₂ (h : List.Forall₂ ReorderedEntry entries others) :
    entries.map Prod.fst = others.map Prod.fst := by
  induction h with
  | nil => rfl
  | cons first _ ih => rw [List.map_cons, List.map_cons, first.key_eq, ih]

theorem Reordered.keys_perm (h : Reordered entries others) :
    (entries.map Prod.fst).Perm (others.map Prod.fst) := by
  obtain ⟨between, each, order⟩ := h
  exact map_fst_of_forall₂ each ▸ order.map Prod.fst

/-- Under a name the same is found, or it is the name of a map and the map is in another order. -/
theorem found_of_forall₂ (h : List.Forall₂ ReorderedEntry entries others) (name : String) :
    Value.find? name others = Value.find? name entries ∨
      name ∈ ["features", "weights"] ∧ ∃ items items', items.Perm items' ∧
        Value.find? name entries = some (.object items) ∧
        Value.find? name others = some (.object items') := by
  induction h with
  | nil => exact .inl rfl
  | cons first _ ih =>
      cases first with
      | kept entry =>
          unfold Value.find?
          split
          · exact .inl rfl
          · exact ih
      | @map other isMap items items' order =>
          unfold Value.find?
          split
          · rename_i same
            obtain rfl := Chars.text.inj (eq_of_beq same)
            exact .inr ⟨isMap, items, items', order, rfl, rfl⟩
          · exact ih

theorem Reordered.found (h : Reordered entries others) (once : Distinct entries) (name : String) :
    Value.find? name others = Value.find? name entries ∨
      name ∈ ["features", "weights"] ∧ ∃ items items', items.Perm items' ∧
        Value.find? name entries = some (.object items) ∧
        Value.find? name others = some (.object items') := by
  obtain ⟨between, each, order⟩ := h
  have onceBetween : Distinct between := (map_fst_of_forall₂ each ▸ once : (between.map _).Nodup)
  rw [← onceBetween.find?_perm order]
  exact found_of_forall₂ each name

theorem Reordered.find?_eq (h : Reordered entries others) (once : Distinct entries) {name : String}
    (noMap : name ∉ ["features", "weights"]) : Value.find? name others = Value.find? name entries :=
  (h.found once name).resolve_right fun reordered => noMap reordered.1

theorem Reordered.itemsOf_perm (h : Reordered entries others) (once : Distinct entries)
    (name : String) : (itemsOf entries name).Perm (itemsOf others name) := by
  rcases h.found once name with same | ⟨_, items, items', order, own, other⟩
  · rw [itemsOf, itemsOf, same]
  · simpa only [itemsOf, own, other] using order

theorem Reordered.givenAsMap (h : Reordered entries others) (once : Distinct entries)
    {name : String} (given : GivenAsMap entries name) : GivenAsMap others name := by
  rcases h.found once name with same | ⟨_, items, items', _, _, other⟩
  · rwa [GivenAsMap, same]
  · intro v found
    rw [other] at found
    exact .inr ⟨items', (Option.some.inj found).symm⟩

theorem Reordered.onceKeyed (h : Reordered entries others) (once : OnceKeyed entries) :
    OnceKeyed others :=
  ⟨h.keys_perm.nodup once.own,
    fun name => ((h.itemsOf_perm once.own name).map Prod.fst).nodup (once.items name)⟩

/-! Loaded settings -/

theorem Reordered.faults_perm (h : Reordered entries others) (once : Distinct entries) :
    (faults entries).Perm (faults others) := by
  have unknown (name : String) :
      (unknownKeys (itemsOf entries name)).Perm (unknownKeys (itemsOf others name)) :=
    ((h.itemsOf_perm once name).map Prod.fst).filter _
  unfold faults
  rw [h.find?_eq once (by decide : "model" ∉ _), h.find?_eq once (by decide : "marker_size" ∉ _)]
  refine List.Perm.append_right _ (List.Perm.append_right _ ?_)
  exact ((unknown "features").map _).append ((unknown "weights").map _)

theorem Reordered.overrides_eq (h : Reordered entries others) (once : OnceKeyed entries)
    (own : Overrides entries c) (other : Overrides others d) : d = c := by
  have scalar {name : String} (noMap : name ∉ ["features", "weights"]) :=
    h.find?_eq once.own noMap
  have item (name : String) (key : Chars) :=
    (once.items name).find?_perm (h.itemsOf_perm once.own name) key
  have features : d.features = c.features := by
    refine PerFeature.entries_inj ?_
    rw [own.features, other.features]
    simp only [item]
  have weights : d.weights = c.weights := by
    refine PerFeature.entries_inj ?_
    rw [own.weights, other.weights]
    simp only [item]
  have model : d.model = c.model := by
    have label := own.model.symm.trans (scalar (by decide : "model" ∉ _) ▸ other.model)
    exact (eq_of_label_eq Model.ofLabel?_label (by simpa using label)).symm
  have markerSize : d.markerSize = c.markerSize := by
    have label :=
      own.markerSize.symm.trans (scalar (by decide : "marker_size" ∉ _) ▸ other.markerSize)
    exact (eq_of_label_eq MarkerSize.ofLabel?_label (by simpa using label)).symm
  have lookback : d.lookback = c.lookback := by
    rw [own.lookback, other.lookback, scalar (by decide)]
  have buyThreshold : d.buyThreshold = c.buyThreshold := by
    rw [own.buyThreshold, other.buyThreshold, scalar (by decide)]
  have sellThreshold : d.sellThreshold = c.sellThreshold := by
    rw [own.sellThreshold, other.sellThreshold, scalar (by decide)]
  have bias : d.bias = c.bias := by
    rw [own.bias, other.bias, scalar (by decide)]
  cases c
  cases d
  exact Config.mk.injEq .. ▸
    ⟨lookback, buyThreshold, sellThreshold, features, weights, bias, model, markerSize⟩

/-- Either both give settings, and the same ones, or both have a fault that names a wrong value. -/
theorem Reordered.ofSettings (h : Reordered entries others) (once : OnceKeyed entries)
    (features : GivenAsMap entries "features") (weights : GivenAsMap entries "weights") :
    (∃ c, ofSettings (.object entries) = .ok c ∧ ofSettings (.object others) = .ok c ∧
      Overrides entries c) ∨
    ∃ fault fault', ofSettings (.object entries) = .error fault ∧
      ofSettings (.object others) = .error fault' ∧ fault ∈ faults entries ∧
      fault' ∈ faults entries := by
  have onceOther := h.onceKeyed once
  have features' := h.givenAsMap once.own features
  have weights' := h.givenAsMap once.own weights
  have perm := h.faults_perm once.own
  rcases ofSettings_cases features weights (once.items _) (once.items _) with
    ⟨faultless, c, made, own⟩ | ⟨fault, first, failed⟩
  · obtain ⟨d, made', other⟩ := ofSettings_of_faultless features' weights' (onceOther.items _)
      (onceOther.items _) (List.nil_perm.mp (faultless ▸ perm))
    exact .inl ⟨c, made, h.overrides_eq once own other ▸ made', own⟩
  · rcases ofSettings_cases features' weights' (onceOther.items _) (onceOther.items _) with
      ⟨faultless', _⟩ | ⟨fault', first', failed'⟩
    · rw [faultless', List.perm_nil] at perm
      rw [perm] at first
      cases first
    · exact .inr ⟨fault, fault', failed, failed', List.mem_of_head? first,
        perm.mem_iff.mpr (List.mem_of_head? first')⟩

end Config

/-! Submitted settings -/

namespace Request

open Value (Distinct)
open Config (Reordered OnceKeyed itemsOf)

variable {α : Type} {name : String} {rule : Value → Except Issue.Cause α}
  {entries others items items' : List (Chars × Value)} {read : List (Feature × α)}

theorem featureKey_ok {key : Chars} {f : Feature} (h : featureKey name key = .ok f) :
    key = f.id := by
  have chosen := ok_of_mapError h
  cases key with
  | broken points => cases chosen
  | text s =>
      rw [Coercion.choice] at chosen
      split at chosen
      · rename_i found
        obtain rfl := Except.ok.inj chosen
        have same := List.find?_some found
        rw [eq_of_beq same]
      · cases chosen

/-- An entry of a map and what is read from it. -/
def ReadAs (name : String) (rule : Value → Except Issue.Cause α) (entry : Chars × Value)
    (got : Feature × α) : Prop :=
  featureKey name entry.1 = .ok got.1 ∧ rule entry.2 = .ok got.2

theorem mapEntries_ok_iff :
    mapEntries name rule items = .ok read ↔ List.Forall₂ (ReadAs name rule) items read := by
  constructor
  · intro h
    induction items generalizing read with
    | nil =>
        obtain rfl := Except.ok.inj h
        exact .nil
    | cons entry rest ih =>
        obtain ⟨key, v⟩ := entry
        unfold mapEntries at h
        split at h
        · rename_i keyed valued others
          obtain rfl := Except.ok.inj h
          exact .cons ⟨keyed, ok_of_mapError valued⟩ (ih others)
        · cases h
  · intro h
    induction h with
    | nil => rfl
    | cons first _ ih =>
        obtain ⟨keyed, valued⟩ := first
        simp only [mapEntries, keyed, valued, ih, Except.mapError]

/-- What is submitted for a feature is what is read from the entry of its name. -/
theorem submitted?_of_forall₂ (h : List.Forall₂ (ReadAs name rule) items read) (f : Feature) :
    submitted? read f = (Value.find? f.id items).bind fun v => (rule v).toOption := by
  induction h with
  | nil => rfl
  | @cons entry got rest others first _ ih =>
      obtain ⟨keyed, valued⟩ := first
      have named : (entry.1 == (f.id : Chars)) = (got.1 == f) := by
        rw [featureKey_ok keyed]
        cases got.1 <;> cases f <;> decide
      rw [submitted?, List.find?_cons, Value.find?, named]
      cases got.1 == f with
      | true => simp only [if_true, Option.bind_some, valued, Except.toOption, Option.map_some]
      | false => exact ih

/-- Entries in another order are read in that order, and the same is submitted. -/
theorem mapEntries_reordered (order : items.Perm items') (once : Distinct items)
    (h : mapEntries name rule items = .ok read) :
    ∃ read', mapEntries name rule items' = .ok read' ∧ read'.Perm read ∧
      ∀ f, submitted? read' f = submitted? read f := by
  have each := mapEntries_ok_iff.mp h
  obtain ⟨read', each', perm⟩ := List.perm_comp_forall₂ order.symm each
  refine ⟨read', mapEntries_ok_iff.mpr each', perm, ?_⟩
  intro f
  rw [submitted?_of_forall₂ each, submitted?_of_forall₂ each', once.find?_perm order]

theorem featureMap_reordered (h : Reordered entries others) (once : OnceKeyed entries)
    (accepted : featureMap entries name rule = .ok read) :
    ∃ read', featureMap others name rule = .ok read' ∧ read'.Perm read ∧
      ∀ f, submitted? read' f = submitted? read f := by
  rcases h.found once.own name with same | ⟨_, items, items', order, own, other⟩
  · exact ⟨read, featureMap_congr same ▸ accepted, .refl _, fun _ => rfl⟩
  · have onceItems := once.items name
    simp only [itemsOf, own] at onceItems
    simp only [featureMap, own, other] at accepted ⊢
    exact mapEntries_reordered order onceItems accepted

theorem weightsOf_reordered {weights : List (Feature × Binary64)} (h : Reordered entries others)
    (once : OnceKeyed entries) (accepted : weightsOf entries = .ok weights) :
    ∃ weights', weightsOf others = .ok weights' ∧
      ∀ f, submitted? weights' f = submitted? weights f := by
  have bounded := weights_ok accepted
  obtain ⟨submitted, read, accepted⟩ := ok_of_bind accepted
  split at accepted
  · obtain rfl := Except.ok.inj accepted
    obtain ⟨weights', read', perm, same⟩ := featureMap_reordered h once read
    exact ⟨weights', weightsOf_ok read' fun entry member => bounded entry (perm.mem_iff.mp member),
      same⟩
  · cases accepted

theorem extraIssues_reordered (h : Reordered entries others) (known : extraIssues entries = []) :
    extraIssues others = [] := by
  rw [extraIssues_eq_nil_iff] at known ⊢
  exact fun key member => known key (h.keys_perm.mem_iff.mpr member)

theorem ofEntries_reordered {r : Request} (h : Reordered entries others) (once : OnceKeyed entries)
    (accepted : ofEntries entries = .ok r) :
    ∃ s, ofEntries others = .ok s ∧ s.toConfig = r.toConfig := by
  obtain ⟨read, known⟩ := ofEntries_ok_iff.mp accepted
  obtain ⟨features, readFeatures, _, sameFeatures⟩ :=
    featureMap_reordered h once (read .features)
  obtain ⟨weights, readWeights, sameWeights⟩ := weightsOf_reordered h once (read .weights)
  have known' := extraIssues_reordered h known
  refine ⟨{ r with features, weights }, ofEntries_ok_iff.mpr ⟨?_, known'⟩, ?_⟩
  · intro s
    have kept (noMap : s.name ∉ ["features", "weights"]) :
        s.judged others = .ok (s.held r) :=
      (Setting.judged_congr (h.find?_eq once.own noMap)).trans (read s)
    cases s with
    | features => exact readFeatures
    | weights => exact readWeights
    | _ => exact kept (by decide)
  · simp only [toConfig, sameFeatures, sameWeights]
    rfl

/-- Settings that are accepted are accepted in any order, and taken for the same. -/
theorem ofValue_reordered {r : Request} (h : Reordered entries others) (once : OnceKeyed entries)
    (accepted : ofValue (.object entries) = .ok r) :
    ∃ s, ofValue (.object others) = .ok s ∧ s.toConfig = r.toConfig := by
  have texts := texts_of_ok accepted
  have texts' : ∀ entry ∈ others, entry.1.isText = true := by
    intro entry member
    obtain ⟨entry', member', same⟩ :=
      List.mem_map.mp (h.keys_perm.mem_iff.mpr (List.mem_map_of_mem member))
    exact same ▸ texts entry' member'
  rw [ofValue_of_texts texts] at accepted
  rw [ofValue_of_texts texts']
  exact ofEntries_reordered h once accepted

end Request

/-- Settings without NaN, whose maps are left out or objects, mean the same in every order of their
keys. Loaded, they are the same settings, which nothing tells apart, or both have a fault that names
a wrong value. Submitted, they are accepted as the same settings with the same script, or both are
rejected. -/
theorem key_order_does_not_count {entries others : List (Chars × Value)}
    (proper : (Value.object entries).Proper) (features : Config.GivenAsMap entries "features")
    (weights : Config.GivenAsMap entries "weights") (h : Config.Reordered entries others) :
    ((∃ c d, Config.ofSettings (.object entries) = .ok c ∧
        Config.ofSettings (.object others) = .ok d ∧ Config.Alike c d) ∨
      ∃ fault fault', Config.ofSettings (.object entries) = .error fault ∧
        Config.ofSettings (.object others) = .error fault' ∧
        ∀ wrong ∈ [fault, fault'], ∃ v kind, Config.Fault.Names wrong v kind) ∧
    ((∃ r s script, Request.ofValue (.object entries) = .ok r ∧
        Request.ofValue (.object others) = .ok s ∧ s.toConfig = r.toConfig ∧
        Script.generate r.toConfig = .ok script ∧ Script.generate s.toConfig = .ok script) ∨
      ∃ issues issues', Request.ofValue (.object entries) = .error issues ∧
        Request.ofValue (.object others) = .error issues') := by
  have once := Config.OnceKeyed.of_proper proper
  constructor
  · rcases h.ofSettings once features weights with
      ⟨c, made, made', overrides⟩ | ⟨fault, fault', failed, failed', member, member'⟩
    · exact .inl ⟨c, c, made, made', (overrides.proper proper).alike⟩
    · refine .inr ⟨fault, fault', failed, failed', ?_⟩
      exact List.forall_mem_cons.mpr ⟨Config.names_of_mem_faults member,
        List.forall_mem_singleton.mpr (Config.names_of_mem_faults member')⟩
  · cases first : Request.ofValue (.object entries) with
    | ok r =>
        obtain ⟨s, accepted, same⟩ := Request.ofValue_reordered h once first
        obtain ⟨script, generated, _⟩ := Script.generate_inRange (Request.inRange first)
        exact .inl ⟨r, s, script, rfl, accepted, same, generated, same ▸ generated⟩
    | error issues =>
        cases second : Request.ofValue (.object others) with
        | ok s =>
            obtain ⟨r, accepted, _⟩ := Request.ofValue_reordered h.symm (h.onceKeyed once) second
            rw [first] at accepted
            cases accepted
        | error issues' => exact .inr ⟨issues, issues', rfl, rfl⟩

/-- Settings that are loaded and accepted, and settings of which the two orders report different
keys. -/
theorem key_order_does_not_count_in_maps :
    let given : List (Chars × Value) :=
      [("weights", .object [("price", .int 2), ("rsi", .float (-1.0))]), ("bias", .float 0.5)]
    let given' : List (Chars × Value) :=
      [("bias", .float 0.5), ("weights", .object [("rsi", .float (-1.0)), ("price", .int 2)])]
    let wrong : List (Chars × Value) :=
      [("bias", .null), ("features", .object [("obv", .int 1), ("adx", .null)])]
    let wrong' : List (Chars × Value) :=
      [("bias", .null), ("features", .object [("adx", .null), ("obv", .int 1)])]
    (∃ c d, Config.ofSettings (.object given) = .ok c ∧
      Config.ofSettings (.object given') = .ok d ∧ Config.Alike c d) ∧
    (∃ r s script, Request.ofValue (.object given) = .ok r ∧
      Request.ofValue (.object given') = .ok s ∧ s.toConfig = r.toConfig ∧
      Script.generate r.toConfig = .ok script ∧ Script.generate s.toConfig = .ok script) ∧
    (∃ fault fault', Config.ofSettings (.object wrong) = .error fault ∧
      Config.ofSettings (.object wrong') = .error fault' ∧
      ∀ f ∈ [fault, fault'], ∃ v kind, Config.Fault.Names f v kind) ∧
    ∃ issues issues', Request.ofValue (.object wrong) = .error issues ∧
      Request.ofValue (.object wrong') = .error issues' := by
  intro given given' wrong wrong'
  have order : Config.Reordered given given' :=
    ⟨given'.reverse, .cons (.map (by decide) (.swap ..)) (.cons (.kept _) .nil),
      given'.reverse_perm⟩
  have order' : Config.Reordered wrong wrong' :=
    ⟨wrong', .cons (.kept _) (.cons (.map (by decide) (.swap ..)) .nil), .refl _⟩
  have proper : (Value.object given).Proper := by
    refine .object (by decide) (List.forall_mem_cons.mpr
      ⟨.object (by decide) ?_, List.forall_mem_singleton.mpr (.scalar (by decide))⟩)
    exact List.forall_mem_cons.mpr
      ⟨.scalar (by decide), List.forall_mem_singleton.mpr (.scalar (by decide))⟩
  have proper' : (Value.object wrong).Proper := by
    refine .object (by decide) (List.forall_mem_cons.mpr
      ⟨.scalar (by decide), List.forall_mem_singleton.mpr (.object (by decide) ?_)⟩)
    exact List.forall_mem_cons.mpr
      ⟨.scalar (by decide), List.forall_mem_singleton.mpr (.scalar (by decide))⟩
  have loads : (Config.ofSettings (.object given)).isOk = true := by decide +kernel
  have accepts : (Request.ofValue (.object given)).isOk = true := by decide +kernel
  have fails : (Config.ofSettings (.object wrong)).isOk = false := by decide +kernel
  have rejects : (Request.ofValue (.object wrong)).isOk = false := by decide +kernel
  have ⟨loaded, submitted⟩ := key_order_does_not_count proper
    (fun v found => nomatch found) (fun v found => .inr ⟨_, (Option.some.inj found).symm⟩) order
  have ⟨loaded', submitted'⟩ := key_order_does_not_count proper'
    (fun v found => .inr ⟨_, (Option.some.inj found).symm⟩) (fun v found => nomatch found) order'
  refine ⟨?_, ?_, ?_, ?_⟩
  · rcases loaded with same | ⟨fault, _, failed, _⟩
    · exact same
    · rw [failed] at loads
      cases loads
  · rcases submitted with same | ⟨issues, _, failed, _⟩
    · exact same
    · rw [failed] at accepts
      cases accepts
  · rcases loaded' with ⟨c, _, made, _⟩ | failed
    · rw [made] at fails
      cases fails
    · exact failed
  · rcases submitted' with ⟨r, _, _, made, _⟩ | failed
    · rw [made] at rejects
      cases rejects
    · exact failed

end IndicatorDesigner
