import IndicatorDesigner.Proofs.Outcome
import IndicatorDesigner.Request.Basic
import Mathlib.Data.List.Nodup

/-!
An object is judged field by field. What is wrong with it is what is wrong with the object of each
single setting, one after the other, and then each field that is not known; what an accepted one
sets is what each of these objects sets. Only a key that is no text takes the place of everything
else.
-/
namespace IndicatorDesigner.Request

/-- What a request may set, in the order in which it is judged. -/
inductive Setting where
  | lookback
  | buyThreshold
  | sellThreshold
  | features
  | weights
  | bias
  | model
  | markerSize
  deriving DecidableEq, Repr

namespace Setting

def all : List Setting :=
  [.lookback, .buyThreshold, .sellThreshold, .features, .weights, .bias, .model, .markerSize]

def name : Setting → String
  | .lookback => "lookback"
  | .buyThreshold => "buy_threshold"
  | .sellThreshold => "sell_threshold"
  | .features => "features"
  | .weights => "weights"
  | .bias => "bias"
  | .model => "model"
  | .markerSize => "marker_size"

theorem mem_all (s : Setting) : s ∈ all := by cases s <;> decide

theorem map_name_all : all.map name = Config.fieldNames := rfl

theorem name_mem (s : Setting) : s.name ∈ Config.fieldNames :=
  map_name_all ▸ List.mem_map_of_mem s.mem_all

theorem name_inj {s t : Setting} (h : s.name = t.name) : s = t :=
  List.inj_on_of_nodup_map (by decide : (all.map name).Nodup) s.mem_all t.mem_all h

/-- The entry of a setting, standing alone. -/
def alone (s : Setting) (entries : List (Chars × Value)) : List (Chars × Value) :=
  (Value.find? s.name entries).toList.map fun v => (.text s.name, v)

/-- The configuration that takes each setting from a configuration of its own. -/
def assembled (own : Setting → Config) : Config :=
  { lookback := (own .lookback).lookback
    buyThreshold := (own .buyThreshold).buyThreshold
    sellThreshold := (own .sellThreshold).sellThreshold
    features := (own .features).features
    weights := (own .weights).weights
    bias := (own .bias).bias
    model := (own .model).model
    markerSize := (own .markerSize).markerSize }

/-- What is read for a setting. -/
abbrev Reading : Setting → Type
  | .lookback => Int
  | .buyThreshold => Binary64
  | .sellThreshold => Binary64
  | .features => List (Feature × Bool)
  | .weights => List (Feature × Binary64)
  | .bias => Binary64
  | .model => Model
  | .markerSize => MarkerSize

/-- What an object says for a setting, judged. -/
def judged (entries : List (Chars × Value)) : (s : Setting) → Except (List Issue) s.Reading
  | .lookback => lookbackOf entries
  | .buyThreshold => buyThresholdOf entries
  | .sellThreshold => sellThresholdOf entries
  | .features => featuresOf entries
  | .weights => weightsOf entries
  | .bias => biasOf entries
  | .model => modelOf entries
  | .markerSize => markerSizeOf entries

def held (r : Request) : (s : Setting) → s.Reading
  | .lookback => r.lookback
  | .buyThreshold => r.buyThreshold
  | .sellThreshold => r.sellThreshold
  | .features => r.features
  | .weights => r.weights
  | .bias => r.bias
  | .model => r.model
  | .markerSize => r.markerSize

def requestOf (reading : (s : Setting) → s.Reading) : Request :=
  { lookback := reading .lookback
    buyThreshold := reading .buyThreshold
    sellThreshold := reading .sellThreshold
    features := reading .features
    weights := reading .weights
    bias := reading .bias
    model := reading .model
    markerSize := reading .markerSize }

theorem held_requestOf (reading : (s : Setting) → s.Reading) (s : Setting) :
    s.held (requestOf reading) = reading s := by cases s <;> rfl

theorem requestOf_held (r : Request) : requestOf (fun s => s.held r) = r := rfl

theorem toConfig_eq_assembled {r : Request} {own : Setting → Request}
    (h : ∀ s : Setting, s.held (own s) = s.held r) :
    r.toConfig = assembled fun s => (own s).toConfig := by
  rw [← requestOf_held r, ← funext h]
  rfl

end Setting

section Nonempty
variable {α : Type} {entries : List (Chars × Value)}

theorem issuesOf_eq_nil_iff {x : Except (List Issue) α} (h : x ≠ .error []) :
    issuesOf x = [] ↔ ∃ a, x = .ok a := by
  cases x with
  | ok a => exact iff_of_true rfl ⟨a, rfl⟩
  | error issues =>
      refine iff_of_false ?_ nofun
      rintro rfl
      exact h rfl

theorem mapError_ne_nil {ε : Type} (x : Except ε α) (issue : ε → Issue) :
    x.mapError (fun cause => [issue cause]) ≠ .error [] := by
  cases x <;> simp [Except.mapError]

variable (name : String) (rule : Value → Except Issue.Cause α)

theorem field_ne_nil (standard : α) : field entries name rule standard ≠ .error [] := by
  unfold field
  split
  · exact nofun
  · exact mapError_ne_nil _ _

theorem mapEntries_ne_nil : mapEntries name rule entries ≠ .error [] := by
  induction entries with
  | nil => exact nofun
  | cons entry rest ih =>
      obtain ⟨key, v⟩ := entry
      unfold mapEntries
      split
      · exact nofun
      · -- Without a single issue, the key, the value and the rest would all have been read.
        rename_i someWrong
        intro h
        obtain ⟨ofKeyAndValue, ofRest⟩ := List.append_eq_nil_iff.mp (Except.error.inj h)
        obtain ⟨ofKey, ofValue⟩ := List.append_eq_nil_iff.mp ofKeyAndValue
        obtain ⟨f, hf⟩ := (issuesOf_eq_nil_iff (mapError_ne_nil _ _)).mp ofKey
        obtain ⟨a, ha⟩ := (issuesOf_eq_nil_iff (mapError_ne_nil _ _)).mp ofValue
        obtain ⟨read, hr⟩ := (issuesOf_eq_nil_iff ih).mp ofRest
        exact someWrong f a read hf ha hr

theorem featureMap_ne_nil : featureMap entries name rule ≠ .error [] := by
  unfold featureMap
  split
  · exact nofun
  · exact mapEntries_ne_nil name rule
  · exact nofun

theorem weightsOf_ne_nil : weightsOf entries ≠ .error [] := by
  intro h
  rcases error_of_bind h with unread | ⟨weights, _, h⟩
  · exact featureMap_ne_nil "weights" Coercion.float unread
  · split at h <;> cases h

theorem Setting.judged_ne_nil (s : Setting) : s.judged entries ≠ .error [] := by
  cases s with
  | features => exact featureMap_ne_nil _ _
  | weights => exact weightsOf_ne_nil
  | _ => exact field_ne_nil _ _ _

end Nonempty

section Alone
variable {α : Type} {a b : List (Chars × Value)} {name : String}
  {rule : Value → Except Issue.Cause α}

theorem field_congr (h : Value.find? name a = Value.find? name b) (standard : α) :
    field a name rule standard = field b name rule standard := by
  rw [field, field, h]

theorem featureMap_congr (h : Value.find? name a = Value.find? name b) :
    featureMap a name rule = featureMap b name rule := by
  rw [featureMap, featureMap, h]

theorem Setting.judged_congr {s : Setting} (h : Value.find? s.name a = Value.find? s.name b) :
    s.judged a = s.judged b := by
  cases s with
  | features => exact featureMap_congr h
  | weights =>
      have named : Value.find? "weights" a = Value.find? "weights" b := h
      simp only [judged, weightsOf, featureMap_congr named, named]
  | _ => exact field_congr h _

theorem Setting.issuesOf_judged_of_none {s : Setting} (h : Value.find? s.name a = none) :
    issuesOf (s.judged a) = [] := by
  rw [judged_congr (show Value.find? s.name a = Value.find? s.name [] from h)]
  cases s <;> rfl

theorem Setting.find?_alone_self (s : Setting) (entries : List (Chars × Value)) :
    Value.find? s.name (s.alone entries) = Value.find? s.name entries := by
  rw [alone]
  cases Value.find? s.name entries <;> simp [Value.find?]

theorem Setting.find?_alone_other {s t : Setting} (h : t ≠ s) (entries : List (Chars × Value)) :
    Value.find? t.name (s.alone entries) = none := by
  have other : s.name ≠ t.name := fun same => h (name_inj same).symm
  rw [alone]
  cases Value.find? s.name entries <;> simp [Value.find?, other]

/-- Nothing else is named if every key is shown as the name of a setting. -/
theorem extraIssues_eq_nil_iff {entries : List (Chars × Value)} : extraIssues entries = [] ↔
    ∀ key ∈ entries.map Prod.fst, key.shown ∈ Config.fieldNames := by
  rw [extraIssues, List.map_eq_nil_iff, List.filter_eq_nil_iff, List.forall_mem_map]
  simp only [Bool.not_eq_true', Bool.not_eq_false, List.contains_iff_mem]

theorem Setting.extraIssues_alone (s : Setting) (entries : List (Chars × Value)) :
    extraIssues (s.alone entries) = [] := by
  rw [extraIssues_eq_nil_iff, List.forall_mem_map]
  intro entry member
  obtain ⟨v, _, rfl⟩ := List.mem_map.mp member
  exact s.name_mem

end Alone

section Entries
variable {entries : List (Chars × Value)} {r : Request}

theorem allIssues_eq (entries : List (Chars × Value)) : allIssues entries =
    Setting.all.flatMap (fun s => issuesOf (s.judged entries)) ++ extraIssues entries := by
  simp [allIssues, Setting.all, Setting.judged]

/-- An object is accepted if each of its settings is, and if nothing else is named. -/
theorem ofEntries_ok_iff : ofEntries entries = .ok r ↔
    (∀ s : Setting, s.judged entries = .ok (s.held r)) ∧ extraIssues entries = [] := by
  constructor
  · intro h
    unfold ofEntries at h
    split at h
    · obtain rfl := Except.ok.inj h
      refine ⟨?_, ‹_›⟩
      intro s
      cases s <;> assumption
    · cases h
  · rintro ⟨read, known⟩
    have lookback : lookbackOf entries = .ok r.lookback := read .lookback
    have buyThreshold : buyThresholdOf entries = .ok r.buyThreshold := read .buyThreshold
    have sellThreshold : sellThresholdOf entries = .ok r.sellThreshold := read .sellThreshold
    have features : featuresOf entries = .ok r.features := read .features
    have weights : weightsOf entries = .ok r.weights := read .weights
    have bias : biasOf entries = .ok r.bias := read .bias
    have model : modelOf entries = .ok r.model := read .model
    have markerSize : markerSizeOf entries = .ok r.markerSize := read .markerSize
    simp only [ofEntries, lookback, buyThreshold, sellThreshold, features, weights, bias, model,
      markerSize, known]

theorem ofEntries_eq_error {issues : List Issue} (h : ofEntries entries = .error issues) :
    issues = allIssues entries := by
  unfold ofEntries at h
  split at h
  · cases h
  · exact (Except.error.inj h).symm

theorem exists_ofEntries_of_nil (h : allIssues entries = []) : ∃ r, ofEntries entries = .ok r := by
  rw [allIssues_eq, List.append_eq_nil_iff, List.flatMap_eq_nil_iff] at h
  obtain ⟨settings, known⟩ := h
  have read (s : Setting) : ∃ a, s.judged entries = .ok a :=
    (issuesOf_eq_nil_iff s.judged_ne_nil).mp (settings s s.mem_all)
  choose reading accepted using read
  refine ⟨Setting.requestOf reading, ofEntries_ok_iff.mpr ⟨?_, known⟩⟩
  intro s
  rw [accepted, Setting.held_requestOf]

theorem ofEntries_ne_nil : ofEntries entries ≠ .error [] := by
  intro h
  obtain ⟨r, accepted⟩ := exists_ofEntries_of_nil (ofEntries_eq_error h).symm
  rw [accepted] at h
  cases h

theorem issuesOf_ofEntries (entries : List (Chars × Value)) :
    issuesOf (ofEntries entries) = allIssues entries := by
  cases h : ofEntries entries with
  | error issues => exact ofEntries_eq_error h
  | ok r =>
      obtain ⟨read, known⟩ := ofEntries_ok_iff.mp h
      rw [allIssues_eq, known]
      simp [read, issuesOf]

end Entries

/-- What is wrong with a submitted value. -/
def issues (v : Value) : List Issue := issuesOf (ofValue v)

theorem ofValue_of_texts {entries : List (Chars × Value)}
    (h : ∀ entry ∈ entries, entry.1.isText = true) :
    ofValue (.object entries) = ofEntries entries := by
  have texts : entries.find? (fun entry => !entry.1.isText) = none := by
    refine List.find?_eq_none.mpr fun entry member => ?_
    simp [h entry member]
  simp only [ofValue, texts]

theorem object_of_ok {v : Value} {r : Request} (h : ofValue v = .ok r) :
    ∃ entries, v = .object entries ∧ ofEntries entries = .ok r := by
  unfold ofValue at h
  split at h
  · split at h
    · cases h
    · exact ⟨_, rfl, h⟩
  · cases h

theorem texts_of_ok {entries : List (Chars × Value)} {r : Request}
    (h : ofValue (.object entries) = .ok r) : ∀ entry ∈ entries, entry.1.isText = true := by
  cases broken : entries.find? fun entry => !entry.1.isText with
  | some entry =>
      simp only [ofValue, broken] at h
      cases h
  | none =>
      intro entry member
      simpa using List.find?_eq_none.mp broken entry member

theorem ofValue_ne_nil (v : Value) : ofValue v ≠ .error [] := by
  unfold ofValue
  split
  · split
    · exact nofun
    · exact ofEntries_ne_nil
  · exact nofun

theorem accepted_iff (v : Value) : (∃ r, ofValue v = .ok r) ↔ issues v = [] :=
  (issuesOf_eq_nil_iff (ofValue_ne_nil v)).symm

section Judged
variable (entries : List (Chars × Value)) (s : Setting)

theorem ofValue_alone : ofValue (.object (s.alone entries)) = ofEntries (s.alone entries) := by
  apply ofValue_of_texts
  intro entry member
  obtain ⟨v, _, rfl⟩ := List.mem_map.mp member
  rfl

/-- A setting that stands alone has the issues that it has in its object. -/
theorem issues_alone :
    issues (.object (s.alone entries)) = issuesOf (s.judged entries) := by
  rw [issues, ofValue_alone, issuesOf_ofEntries, allIssues_eq, s.extraIssues_alone,
    List.append_nil]
  -- Every other setting is left out of the object, and so has no issues.
  have others : ∀ t ≠ s, issuesOf (t.judged (s.alone entries)) = [] := by
    intro t other
    exact Setting.issuesOf_judged_of_none (Setting.find?_alone_other other entries)
  have own := Setting.judged_congr (s.find?_alone_self entries)
  rw [← own]
  cases s <;> simp [Setting.all, others]

theorem exists_alone {r : Request} (h : ofEntries entries = .ok r) :
    ∃ own, ofValue (.object (s.alone entries)) = .ok own ∧ s.held own = s.held r := by
  obtain ⟨read, _⟩ := ofEntries_ok_iff.mp h
  have quiet : issues (.object (s.alone entries)) = [] := by
    rw [issues_alone, read, issuesOf]
  obtain ⟨own, accepted⟩ := (accepted_iff _).mpr quiet
  refine ⟨own, accepted, ?_⟩
  rw [ofValue_alone] at accepted
  have alone := (ofEntries_ok_iff.mp accepted).1 s
  rw [Setting.judged_congr (s.find?_alone_self entries), read] at alone
  exact (Except.ok.inj alone).symm

end Judged

/-- The settings of an object whose keys are texts are judged as if each stood alone. The issues of
the settings come in the order of these, and after them those of the fields that are not known. An
object without issues is accepted, and sets what its entries set alone and the defaults elsewhere.
Of an object with a key that is no text only the first such key is reported. -/
theorem object_is_judged_field_by_field (entries : List (Chars × Value)) :
    ((∀ entry ∈ entries, entry.1.isText = true) →
      issues (.object entries) =
        Setting.all.flatMap (fun s => issues (.object (s.alone entries))) ++
          (entries.filter fun entry => entry.1.shown ∉ Config.fieldNames).map
            (fun entry => ⟨[entry.1.shown], .extraField, entry.2⟩) ∧
      ((∃ r, ofValue (.object entries) = .ok r) ↔ issues (.object entries) = []) ∧
      ∀ r, ofValue (.object entries) = .ok r → ∃ own : Setting → Request,
        (∀ s : Setting, ofValue (.object (s.alone entries)) = .ok (own s)) ∧
        r.toConfig = Setting.assembled (fun s => (own s).toConfig) ∧
        ∀ s : Setting, Value.find? s.name entries = none →
          (own s).toConfig = Config.standard) ∧
    ∀ entry, entries.find? (fun entry => !entry.1.isText) = some entry →
      issues (.object entries) = [⟨[], .brokenText, .chars entry.1⟩] := by
  refine ⟨?_, ?_⟩
  · intro texts
    refine ⟨?_, accepted_iff _, ?_⟩
    · have unknown : extraIssues entries =
          (entries.filter fun entry => entry.1.shown ∉ Config.fieldNames).map
            (fun entry => ⟨[entry.1.shown], .extraField, entry.2⟩) := by
        simp [extraIssues]
      simp only [issues_alone]
      rw [issues, ofValue_of_texts texts, issuesOf_ofEntries, allIssues_eq, unknown]
    · intro r accepted
      rw [ofValue_of_texts texts] at accepted
      choose own alone held using fun s => exists_alone entries s accepted
      refine ⟨own, alone, Setting.toConfig_eq_assembled held, ?_⟩
      intro s absent
      -- The object of a setting that is left out has no entries.
      have unnamed := alone s
      rw [Setting.alone, absent] at unnamed
      exact (Except.ok.inj unnamed) ▸ rfl
  · intro entry broken
    simp only [issues, ofValue, broken, issuesOf]

theorem mixed_objects_are_judged_field_by_field :
    let wrong : List (Chars × Value) := [("note", .null), ("bias", .float .nan),
      ("weights", .object [("rsi", .int 9), ("ema", .text "x")]), ("features", .list []),
      ("lookback", .int 1)]
    let right : List (Chars × Value) := [("weights", .object [("rsi", .text "5")]),
      ("lookback", .float 60.0)]
    let broken : List (Chars × Value) := [("note", .null), (.broken [0xd800], .null)]
    ((∀ entry ∈ wrong, entry.1.isText = true) ∧ issues (.object wrong) =
      [⟨["lookback"], .tooSmall (.int 50), .int 1⟩,
        ⟨["features"], .mapExpected, .list []⟩,
        ⟨["weights", "ema", "[key]"], .notAnOption ["rsi", "macd", "volume", "price"], .text "ema"⟩,
        ⟨["weights", "ema"], .numberUnreadable, .text "x"⟩,
        ⟨["bias"], .tooLarge (.float 10.0), .float .nan⟩,
        ⟨["note"], .extraField, .null⟩]) ∧
    ((∀ entry ∈ right, entry.1.isText = true) ∧ ∃ r own, ofValue (.object right) = .ok r ∧
      ofValue (.object [("weights", .object [("rsi", .text "5")])]) = .ok own ∧
      r.toConfig.weights = own.toConfig.weights ∧ Value.find? "bias" right = none ∧
      r.toConfig.bias = Config.standard.bias) ∧
    broken.find? (fun entry => !entry.1.isText) = some (.broken [0xd800], .null) ∧
      issues (.object broken) = [⟨[], .brokenText, .broken [0xd800]⟩] := by
  intro wrong right broken
  obtain ⟨listed, _⟩ := object_is_judged_field_by_field wrong
  obtain ⟨set, _⟩ := object_is_judged_field_by_field right
  obtain ⟨_, refused⟩ := object_is_judged_field_by_field broken
  have wrongTexts : ∀ entry ∈ wrong, entry.1.isText = true := by simp [wrong, Chars.isText]
  have rightTexts : ∀ entry ∈ right, entry.1.isText = true := by simp [right, Chars.isText]
  obtain ⟨_, accepts, values⟩ := set rightTexts
  obtain ⟨r, accepted⟩ := accepts.mpr rfl
  obtain ⟨own, alone, taken, standard⟩ := values r accepted
  have weights : r.toConfig.weights = (own .weights).toConfig.weights := by
    rw [taken, Setting.assembled]
  have bias : r.toConfig.bias = Config.standard.bias := by
    rw [taken, Setting.assembled, standard .bias rfl]
  refine ⟨⟨wrongTexts, (listed wrongTexts).1.trans ?_⟩,
    ⟨rightTexts, r, own .weights, accepted, alone .weights, weights, rfl, bias⟩, rfl, refused _ rfl⟩
  subst wrong
  rfl

/-- A key that is no text hides what is wrong elsewhere, and is not reported as one more field. -/
theorem broken_key_hides_issues :
    let entries : List (Chars × Value) := [(.broken [0xd800], .int 1), ("lookback", .int 1)]
    issues (.object (Setting.lookback.alone entries)) =
        [⟨["lookback"], .tooSmall (.int 50), .int 1⟩] ∧
      issues (.object entries) = [⟨[], .brokenText, .broken [0xd800]⟩] ∧
      ∀ extra : Issue, issues (.object entries) ≠
        Setting.all.flatMap (fun s => issues (.object (s.alone entries))) ++ [extra] := by
  intro entries
  subst entries
  refine ⟨rfl, rfl, ?_⟩
  intro extra same
  have counted : 1 = 2 := congrArg List.length same
  cases counted

end IndicatorDesigner.Request
