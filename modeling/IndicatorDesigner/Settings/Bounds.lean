import IndicatorDesigner.Value.Printer

/-! The range of each numeric setting, and the step by which a script's input moves through it. -/
namespace IndicatorDesigner

/-- The least and greatest allowed value, and the step. -/
structure Bounds (α : Type) where
  least : α
  greatest : α
  step : α
  deriving DecidableEq, Repr

namespace Bounds

/-- The bars that the formulas look back. -/
def lookback : Bounds Int := ⟨50, 200, 1⟩

/-- The probability from which to buy. -/
def buyThreshold : Bounds Binary64 := ⟨0.5, 0.9, 0.01⟩

/-- The probability down to which to sell. -/
def sellThreshold : Bounds Binary64 := ⟨0.1, 0.5, 0.01⟩

/-- The weight of one feature. -/
def weight : Bounds Binary64 := ⟨-5.0, 5.0, 0.05⟩

/-- The bias of the linear score. -/
def bias : Bounds Binary64 := ⟨-10.0, 10.0, 0.05⟩

def scalars {α : Type} (toScalar : α → Scalar) (b : Bounds α) : Bounds Scalar :=
  ⟨toScalar b.least, toScalar b.greatest, toScalar b.step⟩

def table : List (String × Bounds Scalar) :=
  [("lookback", lookback.scalars .int),
   ("buy_threshold", buyThreshold.scalars .float),
   ("sell_threshold", sellThreshold.scalars .float),
   ("weight", weight.scalars .float),
   ("bias", bias.scalars .float)]

def rangeText (b : Bounds Scalar) : String :=
  "minval=" ++ b.least.quoted ++ ", maxval=" ++ b.greatest.quoted

def stepText (b : Bounds Scalar) : String := "step=" ++ b.step.quoted

/-- The ends and the step as arguments of a script input. -/
def fullText (b : Bounds Scalar) : String := b.rangeText ++ ", " ++ b.stepText

def find? (name : String) : Option (Bounds Scalar) :=
  (table.find? fun entry => entry.1 == name).map (·.2)

example : (find? "bias").map fullText = some "minval=-10.0, maxval=10.0, step=0.05" := by decide

end Bounds
end IndicatorDesigner
