import IndicatorDesigner.Script.Literal
import IndicatorDesigner.Settings.Bounds

/-! The fourteen settings as inputs of a script: the only places where settings enter it. -/
namespace IndicatorDesigner.Script

/-- A setting that a script declares as an input. -/
inductive Field where
  | lookback
  | model
  | bias
  | buyThreshold
  | sellThreshold
  | markerSize
  | enabled (f : Feature)
  | weight (f : Feature)
  deriving DecidableEq, Repr

namespace Field

def variableName : Field → String
  | .lookback => "lookback"
  | .model => "modelType"
  | .bias => "biasInput"
  | .buyThreshold => "buyThreshold"
  | .sellThreshold => "sellThreshold"
  | .markerSize => "markerSize"
  | .enabled f => "use" ++ f.suffix
  | .weight f => "weight" ++ f.suffix

def inputKind : Field → String
  | .lookback => "int"
  | .model => "string"
  | .bias => "float"
  | .buyThreshold => "float"
  | .sellThreshold => "float"
  | .markerSize => "string"
  | .enabled _ => "bool"
  | .weight _ => "float"

def caption : Field → String
  | .lookback => "Lookback Period"
  | .model => "Model Type"
  | .bias => "Model Bias"
  | .buyThreshold => "Buy Threshold"
  | .sellThreshold => "Sell Threshold"
  | .markerSize => "Marker Size"
  | .enabled f => f.label
  | .weight f => f.weightLabel

def group : Field → String
  | .lookback => "Model Controls"
  | .model => "Model Controls"
  | .bias => "Model Weights"
  | .buyThreshold => "Signal Thresholds"
  | .sellThreshold => "Signal Thresholds"
  | .markerSize => "Visuals"
  | .enabled _ => "Feature Selection"
  | .weight _ => "Model Weights"

def limits : Field → List String
  | .lookback => [(Bounds.lookback.scalars .int).fullText]
  | .model => ["options=" ++ optionList (Model.all.map Model.label)]
  | .bias =>
    let bounds := Bounds.bias.scalars .float
    [bounds.stepText ++ ", " ++ bounds.rangeText]
  | .buyThreshold => [(Bounds.buyThreshold.scalars .float).fullText]
  | .sellThreshold => [(Bounds.sellThreshold.scalars .float).fullText]
  | .markerSize => ["options=" ++ optionList (MarkerSize.all.map MarkerSize.label)]
  | .enabled _ => []
  | .weight _ => [(Bounds.weight.scalars .float).fullText]

/-- What follows the value in the declaration of a field. -/
def arguments (f : Field) : String :=
  ", ".intercalate (quote f.caption :: f.limits ++ ["group=" ++ quote f.group])

def literal (c : Config) : Field → Except Fault String
  | .lookback => plainText c.lookback
  | .model => .ok (quote c.model.label)
  | .bias => number c.bias
  | .buyThreshold => number c.buyThreshold
  | .sellThreshold => number c.sellThreshold
  | .markerSize => .ok (quote c.markerSize.label)
  | .enabled f => .ok (switchText (c.features.get f).truthy)
  | .weight f => number (c.weights.get f)

def declaration (f : Field) (literal : String) : String :=
  f.variableName ++ " = input." ++ f.inputKind ++ "(" ++ literal ++ ", " ++ f.arguments ++ ")"

end Field
end IndicatorDesigner.Script
