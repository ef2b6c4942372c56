import IndicatorDesigner.Config.Basic
import IndicatorDesigner.Script.Document

/-! The options of the command line, with the words that their help uses. -/
namespace IndicatorDesigner.CommandLine

def program : String := "generate_indicator.py"

def description : String := "Generate the Agentic ML Signal Suite Pine Script"

/-- An option of the command line. -/
inductive Flag where
  | help
  | lookback
  | buyThreshold
  | sellThreshold
  | bias
  | model
  | markerSize
  | enable
  | disable
  | weight
  | output
  | save
  | copy
  deriving DecidableEq, Repr

namespace Flag

/-- All options, in the order in which help lists them. -/
def all : List Flag :=
  [.help, .lookback, .buyThreshold, .sellThreshold, .bias, .model, .markerSize, .enable, .disable,
   .weight, .output, .save, .copy]

def spellings : Flag → List String
  | .help => ["-h", "--help"]
  | .lookback => ["--lookback"]
  | .buyThreshold => ["--buy-threshold"]
  | .sellThreshold => ["--sell-threshold"]
  | .bias => ["--bias"]
  | .model => ["--model"]
  | .markerSize => ["--marker-size"]
  | .enable => ["--enable"]
  | .disable => ["--disable"]
  | .weight => ["--weight"]
  | .output => ["--output", "-o"]
  | .save => ["--save"]
  | .copy => ["--copy"]

def name (f : Flag) : String := "/".intercalate f.spellings

/-- All spellings with their options, in the order in which they are looked through. -/
def table : List (String × Flag) := all.flatMap fun f => f.spellings.map fun s => (s, f)

def ofSpelling? (s : String) : Option Flag := (table.find? fun entry => entry.1 == s).map (·.2)

/-- The short names of the models, in alphabetical order. -/
def models : List (String × Model) := [("logistic", .logistic), ("svm", .linearSvm)]

def markerSizes : List (String × MarkerSize) := MarkerSize.all.map fun m => (m.id, m)

def features : List (String × Feature) := Feature.all.map fun f => (f.id, f)

def choicesText (names : List String) : String := "\x7b" ++ ",".intercalate names ++ "\x7d"

/-- What stands for the value of an option in its help; none if it takes no value. -/
def placeholder? : Flag → Option String
  | .help => none
  | .lookback => some "LOOKBACK"
  | .buyThreshold => some "BUY_THRESHOLD"
  | .sellThreshold => some "SELL_THRESHOLD"
  | .bias => some "BIAS"
  | .model => some (choicesText (models.map (·.1)))
  | .markerSize => some (choicesText (markerSizes.map (·.1)))
  | .enable => some "FEATURE"
  | .disable => some "FEATURE"
  | .weight => some "FEATURE=VALUE"
  | .output => some "OUTPUT"
  | .save => none
  | .copy => none

def takesValue (f : Flag) : Bool := f.placeholder?.isSome

def helpText : Flag → String
  | .help => "show this help message and exit"
  | .lookback => "Lookback period in bars (50-200)"
  | .buyThreshold => "Buy probability threshold (0.5-0.9)"
  | .sellThreshold => "Sell probability threshold (0.1-0.5)"
  | .bias => "Model bias (-10 to 10)"
  | .model => "Model type"
  | .markerSize => "Buy/sell marker size"
  | .enable => "Enable a feature (repeatable)"
  | .disable => "Disable a feature (repeatable)"
  | .weight => "Set a feature weight (repeatable, -5 to 5)"
  | .output => "Write the script to this file"
  | .save => "Write the script to OUTPUT_DIR/" ++ Script.fileName
  | .copy => "Copy the script to the clipboard"

end Flag
end IndicatorDesigner.CommandLine
