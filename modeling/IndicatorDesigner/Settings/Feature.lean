/-! The four engineered signals, in the order in which a script declares and adds them. -/
namespace IndicatorDesigner

/-- An engineered signal. -/
inductive Feature where
  | rsi
  | macd
  | volume
  | price
  deriving DecidableEq, Repr, Inhabited

namespace Feature

/-- All features in emission order. -/
def all : List Feature := [.rsi, .macd, .volume, .price]

/-- All features by name, in alphabetical order. -/
def byName : List Feature := [.macd, .price, .rsi, .volume]

def id : Feature → String
  | .rsi => "rsi"
  | .macd => "macd"
  | .volume => "volume"
  | .price => "price"

/-- The end of the script variables that belong to a feature. -/
def suffix : Feature → String
  | .rsi => "RSI"
  | .macd => "MACD"
  | .volume => "VOLUME"
  | .price => "PRICE"

def label : Feature → String
  | .rsi => "RSI Oscillator"
  | .macd => "MACD Momentum"
  | .volume => "Volume Profile"
  | .price => "Price Action"

def weightLabel : Feature → String
  | .rsi => "RSI Weight"
  | .macd => "MACD Weight"
  | .volume => "Volume Weight"
  | .price => "Price Action Weight"

def formula : Feature → List String
  | .rsi =>
    ["rsiSource = ta.rsi(close, 14)",
     "normalizedRsi = math.max(math.min((rsiSource - 50) / 50, 1), -1)"]
  | .macd =>
    ["macdFast, macdSlow, macdHist = ta.macd(close, 12, 26, 9)",
     "normalizedMacd = math.tanh(macdHist / ta.stdev(macdHist, "
       ++ "math.max(5, math.round(lookback * 0.2))))"]
  | .volume =>
    ["volumeMean = ta.sma(volume, lookback)",
     "normalizedVolume = math.tanh(volume / volumeMean - 1)"]
  | .price =>
    ["priceMomentum = ta.roc(close, math.max(2, math.round(lookback * 0.25)))",
     "rangeNormalizedMomentum = math.tanh(priceMomentum / 100)"]

/-- The script variable that holds the normalized signal. -/
def series : Feature → String
  | .rsi => "normalizedRsi"
  | .macd => "normalizedMacd"
  | .volume => "normalizedVolume"
  | .price => "rangeNormalizedMomentum"

def ofId? (name : String) : Option Feature := all.find? fun f => f.id == name

theorem ofId?_id (f : Feature) : ofId? f.id = some f := by
  cases f <;> decide

end Feature

/-- One item for each feature. -/
structure PerFeature (α : Type) where
  rsi : α
  macd : α
  volume : α
  price : α
  deriving DecidableEq, Repr, Inhabited

namespace PerFeature

variable {α β : Type}

def get (p : PerFeature α) : Feature → α
  | .rsi => p.rsi
  | .macd => p.macd
  | .volume => p.volume
  | .price => p.price

/-- One item for each feature, from a function. -/
def ofFn (f : Feature → α) : PerFeature α := ⟨f .rsi, f .macd, f .volume, f .price⟩

/-- The items in emission order. -/
def toList (p : PerFeature α) : List α := Feature.all.map p.get

/-- The items with their features, in emission order. -/
def entries (p : PerFeature α) : List (Feature × α) := Feature.all.map fun f => (f, p.get f)

def map (g : α → β) (p : PerFeature α) : PerFeature β := ofFn fun f => g (p.get f)

theorem get_ofFn (f : Feature → α) (x : Feature) : (ofFn f).get x = f x := by
  cases x <;> rfl

theorem get_map (g : α → β) (p : PerFeature α) (x : Feature) : (p.map g).get x = g (p.get x) :=
  get_ofFn _ x

end PerFeature
end IndicatorDesigner
