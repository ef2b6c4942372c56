import IndicatorDesigner.Settings.Defaults
import IndicatorDesigner.Value.Basic

/-!
The settings of one indicator. Numbers and switches are kept as they were given, of whatever kind:
ranges are the business of whoever accepts a request.
-/
namespace IndicatorDesigner

/-- The settings of one indicator. -/
structure Config where
  lookback : Value
  buyThreshold : Value
  sellThreshold : Value
  features : PerFeature Value
  weights : PerFeature Value
  bias : Value
  model : Model
  markerSize : MarkerSize
  deriving Repr

namespace Config

def fieldNames : List String :=
  ["lookback", "buy_threshold", "sell_threshold", "features", "weights", "bias", "model",
   "marker_size"]

/-- The settings that apply where nothing else is said. -/
def standard : Config :=
  { lookback := .int Defaults.lookback
    buyThreshold := .float Defaults.buyThreshold
    sellThreshold := .float Defaults.sellThreshold
    features := .ofFn fun f => .bool f.enabledByDefault
    weights := .ofFn fun f => .float f.defaultWeight
    bias := .float Defaults.bias
    model := Defaults.model
    markerSize := Defaults.markerSize }

instance : Inhabited Config := ⟨standard⟩

/-- A map over the features as a value, in emission order. -/
def mapValue (p : PerFeature Value) : Value := .object (p.entries.map fun (f, v) => (f.id, v))

/-- The switches as the truth values they count as. -/
def switches (c : Config) : PerFeature Bool := c.features.map Value.truthy

def toValue (c : Config) : Value :=
  .object
    [("lookback", c.lookback),
     ("buy_threshold", c.buyThreshold),
     ("sell_threshold", c.sellThreshold),
     ("features", mapValue (c.switches.map .bool)),
     ("weights", mapValue c.weights),
     ("bias", c.bias),
     ("model", .text c.model.label),
     ("marker_size", .text c.markerSize.label)]

def sameMap (p q : PerFeature Value) : Bool := Feature.all.all fun f => (p.get f).same (q.get f)

def same (a b : Config) : Bool :=
  a.lookback.same b.lookback && a.buyThreshold.same b.buyThreshold
    && a.sellThreshold.same b.sellThreshold && sameMap a.features b.features
    && sameMap a.weights b.weights && a.bias.same b.bias
    && a.model == b.model && a.markerSize == b.markerSize

end Config
end IndicatorDesigner
