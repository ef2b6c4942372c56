/-! The two settings that are chosen from a list: the model and the size of the markers. -/
namespace IndicatorDesigner

/-- How the linear score becomes a probability. -/
inductive Model where
  | logistic
  | linearSvm
  deriving DecidableEq, Repr, Inhabited

namespace Model

/-- All models, in option order. -/
def all : List Model := [.logistic, .linearSvm]

def label : Model → String
  | .logistic => "Logistic Regression"
  | .linearSvm => "SVM (Linear Kernel)"

/-- The script expression that links the score to a probability. -/
def link : Model → String
  | .logistic => "1.0 / (1.0 + math.exp(-linearComponent))"
  | .linearSvm => "0.5 + 0.5 * math.tanh(linearComponent)"

def ofLabel? (label : String) : Option Model := all.find? fun m => m.label == label

theorem ofLabel?_label (m : Model) : ofLabel? m.label = some m := by
  cases m <;> decide

end Model

/-- The size of the signal markers. -/
inductive MarkerSize where
  | small
  | medium
  | large
  deriving DecidableEq, Repr, Inhabited

namespace MarkerSize

/-- All sizes, in option order. -/
def all : List MarkerSize := [.small, .medium, .large]

def id : MarkerSize → String
  | .small => "small"
  | .medium => "medium"
  | .large => "large"

def label : MarkerSize → String
  | .small => "Small"
  | .medium => "Medium"
  | .large => "Large"

/-- The script constant of a size. It is not the one of the same name. -/
def token : MarkerSize → String
  | .small => "size.small"
  | .medium => "size.large"
  | .large => "size.huge"

def ofLabel? (label : String) : Option MarkerSize := all.find? fun m => m.label == label

theorem ofLabel?_label (m : MarkerSize) : ofLabel? m.label = some m := by
  cases m <;> decide

end MarkerSize
end IndicatorDesigner
