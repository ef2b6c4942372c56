import IndicatorDesigner.Config.Basic
import IndicatorDesigner.Value.Digest

/-!
The identity under which a script is kept. Switches count as truth values here, so equal settings
have equal keys, and settings with equal keys differ at most in how their switches are written.
-/
namespace IndicatorDesigner.Config

/-- What two settings must share to be one entry. -/
structure Key where
  lookback : Value
  buyThreshold : Value
  sellThreshold : Value
  switches : PerFeature Bool
  weights : PerFeature Value
  bias : Value
  model : Model
  markerSize : MarkerSize
  deriving Repr

def key (c : Config) : Key :=
  { lookback := c.lookback, buyThreshold := c.buyThreshold, sellThreshold := c.sellThreshold,
    switches := c.switches, weights := c.weights, bias := c.bias, model := c.model,
    markerSize := c.markerSize }

namespace Key

/-- Whether two keys are equal, numbers by exact value. -/
def same (a b : Key) : Bool :=
  a.lookback.same b.lookback && a.buyThreshold.same b.buyThreshold
    && a.sellThreshold.same b.sellThreshold && a.switches == b.switches
    && sameMap a.weights b.weights && a.bias.same b.bias
    && a.model == b.model && a.markerSize == b.markerSize

instance : BEq Key := ⟨same⟩

/-- The settings of a key that may hold lists or objects, in order. -/
def values (k : Key) : List Value :=
  [k.lookback, k.buyThreshold, k.sellThreshold] ++ k.weights.toList ++ [k.bias]

/-- The kind of the first setting that cannot be looked up: a list or an object. -/
def unhashable? (k : Key) : Option String :=
  k.values.findSome? fun v => match v with
    | .scalar _ => none
    | v => some v.kind

def digests (k : Key) : List Digest :=
  k.values.filterMap fun v => match v with
    | .scalar s => some (.ofScalar s)
    | _ => none

/-- Whether two keys without lists and objects have the same digest. -/
def sameDigest (a b : Key) : Bool :=
  ((a.digests.zip b.digests).all fun (x, y) => x.same y) && a.switches == b.switches
    && a.model == b.model && a.markerSize == b.markerSize

def toValue (k : Key) : Value :=
  .list
    [k.lookback, k.buyThreshold, k.sellThreshold, .list (k.switches.toList.map .bool),
     .list k.weights.toList, k.bias, .text k.model.label, .text k.markerSize.label]

end Key
end IndicatorDesigner.Config
