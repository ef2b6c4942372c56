import IndicatorDesigner.Script.Field

/-!
The fifteen blocks of a script as templates. A line of a template is fixed or declares a field, so
settings cannot reach any other line.
-/
namespace IndicatorDesigner.Script

/-- A line of a template. -/
inductive Line where
  | fixed (text : String)
  | declare (field : Field)
  deriving DecidableEq, Repr

def Line.render (c : Config) : Line → Except Fault String
  | .fixed text => .ok text
  | .declare field => do .ok (field.declaration (← field.literal c))

def languageVersion : Nat := 5

def title : String := "Agentic ML Signal Suite"

def maxLabels : Nat := 500

def maxLines : Nat := 500

/-- Both signals are off unless this holds, so inverted or equal thresholds never signal. -/
def thresholdGuard : String := "buyThreshold > sellThreshold"

/-- The alerts: signal, title and message. -/
def alerts : List (String × String × String) :=
  [("buySignal", "Agentic ML Buy", "Agentic ML Buy Signal Triggered"),
   ("sellSignal", "Agentic ML Sell", "Agentic ML Sell Signal Triggered")]

/-- The rows of the status table: caption and expression. -/
def statusRows : List (String × String) :=
  [("ML Probability: ", "str.tostring(probability, '#.##')"),
   ("Buy Threshold: ", "str.tostring(buyThreshold, '#.##')"),
   ("Sell Threshold: ", "str.tostring(sellThreshold, '#.##')"),
   ("Selected Model: ", "modelType")]

/-- A part of a script. -/
inductive Block where
  | header
  | modelControls
  | thresholds
  | markerSize
  | featureToggles
  | featureWeights
  | featureEngineering
  | scoreAccumulation
  | nonlinearity
  | clamp
  | signals
  | plots
  | markers
  | alerts
  | statusTable
  deriving DecidableEq, Repr

namespace Block

/-- All blocks in emission order. -/
def all : List Block :=
  [.header, .modelControls, .thresholds, .markerSize, .featureToggles, .featureWeights,
   .featureEngineering, .scoreAccumulation, .nonlinearity, .clamp, .signals, .plots, .markers,
   .alerts, .statusTable]

def name : Block → String
  | .header => "header"
  | .modelControls => "model_controls"
  | .thresholds => "thresholds"
  | .markerSize => "marker_size"
  | .featureToggles => "feature_toggles"
  | .featureWeights => "feature_weights"
  | .featureEngineering => "feature_engineering"
  | .scoreAccumulation => "score_accumulation"
  | .nonlinearity => "nonlinearity"
  | .clamp => "clamp"
  | .signals => "signals"
  | .plots => "plots"
  | .markers => "markers"
  | .alerts => "alerts"
  | .statusTable => "status_table"

def ofName? (name : String) : Option Block := all.find? fun b => b.name == name

/-- A chain of conditions on the marker size; the last size is the fallback. -/
def sizeSelector : List MarkerSize → String
  | [] => ""
  | [size] => size.token
  | size :: rest =>
    "markerSize == " ++ quote size.label ++ " ? " ++ size.token ++ " : " ++ sizeSelector rest

/-- The formulas of the features with an empty line between them. -/
def formulaLines : List Feature → List String
  | [] => []
  | [f] => f.formula
  | f :: rest => f.formula ++ "" :: formulaLines rest

/-- The score term of a feature, which its switch gates. -/
def scoreLine (f : Feature) : String :=
  "modelSum += " ++ (Field.enabled f).variableName ++ " ? " ++ (Field.weight f).variableName
    ++ " * " ++ f.series ++ " : 0.0"

/-- The branches after the first one; the last model is the fallback. -/
def otherBranches : List Model → List String
  | [] => []
  | [m] => ["else", "    " ++ m.link]
  | m :: rest =>
    ("else if modelType == " ++ quote m.label) :: ("    " ++ m.link) :: otherBranches rest

/-- The choice of the link function by model, made when the script runs. -/
def linkLines : List Model → List String
  | [] => []
  | m :: rest =>
    ("probability = if modelType == " ++ quote m.label) :: ("    " ++ m.link) :: otherBranches rest

/-- The rows of the status table, numbered from the given one. -/
def statusLines : Nat → List (String × String) → List String
  | _, [] => []
  | row, (caption, expression) :: rest =>
    ("    table.cell(debugTable, 0, " ++ toString row ++ ", " ++ quote caption ++ " + "
      ++ expression ++ ")") :: statusLines (row + 1) rest

/-- The lines of a block that are the same in every script. -/
def fixedLines : Block → List String
  | .header =>
    ["//@version=" ++ toString languageVersion,
     "indicator(" ++ quote title ++ ", overlay=true, max_labels_count=" ++ toString maxLabels
       ++ ", max_lines_count=" ++ toString maxLines ++ ")"]
  | .featureEngineering => "// === Feature Engineering ===" :: formulaLines Feature.all
  | .scoreAccumulation => "modelSum = 0.0" :: Feature.all.map scoreLine
  | .nonlinearity => "linearComponent = modelSum + biasInput" :: linkLines Model.all
  | .clamp => ["probability := math.clamp(probability, 0.0, 1.0)"]
  | .signals =>
    ["buySignal = probability >= buyThreshold and " ++ thresholdGuard,
     "sellSignal = probability <= sellThreshold and " ++ thresholdGuard]
  | .plots =>
    ["plot(probability, 'ML Probability', color=color.new(color.cyan, 0), linewidth=2)",
     "plot(buyThreshold, 'Buy Threshold', color=color.new(color.green, 60), linewidth=1"
       ++ ", style=plot.style_dashed)",
     "plot(sellThreshold, 'Sell Threshold', color=color.new(color.red, 60), linewidth=1"
       ++ ", style=plot.style_dashed)"]
  | .markers =>
    ["plotshape(buySignal, title='Buy Signal', location=location.belowbar, "
       ++ "style=shape.triangleup, color=color.new(color.lime, 0), size=markerSizePine, offset=0)",
     "plotshape(sellSignal, title='Sell Signal', location=location.abovebar, "
       ++ "style=shape.triangledown, color=color.new(color.red, 0), size=markerSizePine, offset=0)"]
  | .alerts =>
    Script.alerts.map fun (signal, title, message) =>
      "alertcondition(" ++ signal ++ ", title=" ++ quote title ++ ", message=" ++ quote message
        ++ ")"
  | .statusTable =>
    ["// Debug table for transparency",
     "var table debugTable = table.new(position.top_right, 1, " ++ toString statusRows.length
       ++ ", border_width=1)",
     "if barstate.islast"] ++ statusLines 0 statusRows
  | .modelControls => ["// === Hyperparameters ==="]
  | .thresholds => []
  | .markerSize => ["markerSizePine = " ++ sizeSelector MarkerSize.all]
  | .featureToggles => []
  | .featureWeights => []

def template : Block → List Line
  | .modelControls =>
    (fixedLines .modelControls).map .fixed ++ [.declare .lookback, .declare .model, .declare .bias]
  | .thresholds => [.declare .buyThreshold, .declare .sellThreshold]
  | .markerSize => .declare .markerSize :: (fixedLines .markerSize).map .fixed
  | .featureToggles => Feature.all.map fun f => .declare (.enabled f)
  | .featureWeights => Feature.all.map fun f => .declare (.weight f)
  | b => b.fixedLines.map .fixed

def lines (c : Config) (b : Block) : Except Fault (List String) := b.template.mapM (Line.render c)

def render (c : Config) (b : Block) : Except Fault String := do .ok ("\n".intercalate (← b.lines c))

end Block
end IndicatorDesigner.Script
