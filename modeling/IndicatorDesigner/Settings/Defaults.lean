import IndicatorDesigner.Numeric.Binary64
import IndicatorDesigner.Settings.Choice
import IndicatorDesigner.Settings.Feature

/-! The settings that apply where nothing else is said. -/
namespace IndicatorDesigner

namespace Defaults

def lookback : Int := 100
def buyThreshold : Binary64 := 0.7
def sellThreshold : Binary64 := 0.3
def bias : Binary64 := 0.1
def model : Model := .logistic
def markerSize : MarkerSize := .medium

end Defaults

namespace Feature

def enabledByDefault : Feature → Bool
  | .rsi => true
  | .macd => true
  | .volume => false
  | .price => true

def defaultWeight : Feature → Binary64
  | .rsi => 0.65
  | .macd => 0.45
  | .volume => 0.3
  | .price => 0.35

end Feature
end IndicatorDesigner
