import IndicatorDesigner.Config.Basic
import IndicatorDesigner.Request.Coercion

/-!
Settings as a client submits them. Every field is judged on its own, in declaration order, and then
each field that is not known; the settings left out are the defaults.
-/
namespace IndicatorDesigner

/-- Accepted settings. The maps hold what was submitted, in that order. -/
structure Request where
  lookback : Int
  buyThreshold : Binary64
  sellThreshold : Binary64
  features : List (Feature × Bool)
  weights : List (Feature × Binary64)
  bias : Binary64
  model : Model
  markerSize : MarkerSize
  deriving Repr

namespace Request

/-- A field judged by a rule, or its default. -/
def field {α : Type} (entries : List (Chars × Value)) (name : String)
    (rule : Value → Except Issue.Cause α) (standard : α) : Except (List Issue) α :=
  match Value.find? name entries with
  | none => .ok standard
  | some v => (rule v).mapError fun cause => [⟨[name], cause, v⟩]

def featureKey (name : String) (key : Chars) : Except (List Issue) Feature :=
  (Coercion.choice Feature.ofId? (Feature.all.map Feature.id) (.chars key)).mapError fun cause =>
    [⟨[name, key.shown, "[key]"], cause, .chars key⟩]

def issuesOf {α : Type} : Except (List Issue) α → List Issue
  | .ok _ => []
  | .error issues => issues

/-- The entries of a map over the features. A value is judged even if its key is wrong. -/
def mapEntries {α : Type} (name : String) (rule : Value → Except Issue.Cause α) :
    List (Chars × Value) → Except (List Issue) (List (Feature × α))
  | [] => .ok []
  | (key, v) :: rest =>
    match featureKey name key, (rule v).mapError (fun cause => [⟨[name, key.shown], cause, v⟩]),
        mapEntries name rule rest with
    | .ok f, .ok a, .ok entries => .ok ((f, a) :: entries)
    | a, b, c => .error (issuesOf a ++ issuesOf b ++ issuesOf c)

/-- A map over the features, judged entry by entry. -/
def featureMap {α : Type} (entries : List (Chars × Value)) (name : String)
    (rule : Value → Except Issue.Cause α) : Except (List Issue) (List (Feature × α)) :=
  match Value.find? name entries with
  | none => .ok []
  | some (.object items) => mapEntries name rule items
  | some v => .error [⟨[name], .mapExpected, v⟩]

def weightOk (x : Binary64) : Bool := Bounds.weight.least.le x && x.le Bounds.weight.greatest

/-- The submitted weights. When all are numbers, the first one out of bounds is reported for the
whole map. -/
def weightsOf (entries : List (Chars × Value)) :
    Except (List Issue) (List (Feature × Binary64)) := do
  let weights ← featureMap entries "weights" Coercion.float
  match weights.find? fun entry => !weightOk entry.2 with
  | none => .ok weights
  | some (f, _) =>
    .error
      [⟨["weights"],
        .weightOutOfRange f (.float Bounds.weight.least) (.float Bounds.weight.greatest),
        (Value.find? "weights" entries).getD .null⟩]

/-- The issues of the fields that are not known, in their order. -/
def extraIssues (entries : List (Chars × Value)) : List Issue :=
  (entries.filter fun entry => !Config.fieldNames.contains entry.1.shown).map fun (key, v) =>
    ⟨[key.shown], .extraField, v⟩

def lookbackOf (entries : List (Chars × Value)) : Except (List Issue) Int :=
  field entries "lookback" (Coercion.boundedInt Bounds.lookback) Defaults.lookback

def buyThresholdOf (entries : List (Chars × Value)) : Except (List Issue) Binary64 :=
  field entries "buy_threshold" (Coercion.boundedFloat Bounds.buyThreshold) Defaults.buyThreshold

def sellThresholdOf (entries : List (Chars × Value)) : Except (List Issue) Binary64 :=
  field entries "sell_threshold" (Coercion.boundedFloat Bounds.sellThreshold) Defaults.sellThreshold

def featuresOf (entries : List (Chars × Value)) : Except (List Issue) (List (Feature × Bool)) :=
  featureMap entries "features" Coercion.switch

def biasOf (entries : List (Chars × Value)) : Except (List Issue) Binary64 :=
  field entries "bias" (Coercion.boundedFloat Bounds.bias) Defaults.bias

def modelOf (entries : List (Chars × Value)) : Except (List Issue) Model :=
  field entries "model" (Coercion.choice Model.ofLabel? (Model.all.map Model.label)) Defaults.model

def markerSizeOf (entries : List (Chars × Value)) : Except (List Issue) MarkerSize :=
  field entries "marker_size"
    (Coercion.choice MarkerSize.ofLabel? (MarkerSize.all.map MarkerSize.label)) Defaults.markerSize

/-- All issues of an object, in the order in which they are reported. -/
def allIssues (entries : List (Chars × Value)) : List Issue :=
  issuesOf (lookbackOf entries) ++ issuesOf (buyThresholdOf entries)
    ++ issuesOf (sellThresholdOf entries) ++ issuesOf (featuresOf entries)
    ++ issuesOf (weightsOf entries) ++ issuesOf (biasOf entries) ++ issuesOf (modelOf entries)
    ++ issuesOf (markerSizeOf entries) ++ extraIssues entries

def ofEntries (entries : List (Chars × Value)) : Except (List Issue) Request :=
  match lookbackOf entries, buyThresholdOf entries, sellThresholdOf entries, featuresOf entries,
      weightsOf entries, biasOf entries, modelOf entries, markerSizeOf entries,
      extraIssues entries with
  | .ok lookback, .ok buyThreshold, .ok sellThreshold, .ok features, .ok weights, .ok bias,
      .ok model, .ok markerSize, [] =>
    .ok { lookback, buyThreshold, sellThreshold, features, weights, bias, model, markerSize }
  | _, _, _, _, _, _, _, _, _ => .error (allIssues entries)

/-- Judges a submitted value. Of an object with a key that is no text nothing else is said. -/
def ofValue : Value → Except (List Issue) Request
  | .object entries =>
    match entries.find? fun entry => !entry.1.isText with
    | some (key, _) => .error [⟨[], .brokenText, .chars key⟩]
    | none => ofEntries entries
  | v => .error [⟨[], .objectExpected, v⟩]

def submitted? {α : Type} (entries : List (Feature × α)) (f : Feature) : Option α :=
  (entries.find? fun entry => entry.1 == f).map (·.2)

/-- The settings of a request: what was submitted over the defaults. -/
def toConfig (r : Request) : Config :=
  { lookback := .int r.lookback
    buyThreshold := .float r.buyThreshold
    sellThreshold := .float r.sellThreshold
    features := .ofFn fun f => .bool ((submitted? r.features f).getD f.enabledByDefault)
    weights := .ofFn fun f => .float ((submitted? r.weights f).getD f.defaultWeight)
    bias := .float r.bias
    model := r.model
    markerSize := r.markerSize }

end Request
end IndicatorDesigner
