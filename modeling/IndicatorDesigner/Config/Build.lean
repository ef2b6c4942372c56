import IndicatorDesigner.Config.Basic
import IndicatorDesigner.Value.Printer

/-!
Settings from values. Either every setting is given by name and the maps must be complete, or an
object overrides the defaults entry by entry. The maps are judged first, features before weights,
then the model and the marker size.
-/
namespace IndicatorDesigner.Config

inductive Fault where
  | notArguments (kind : String)
  | unknownArgument (name : String)
  | repeatedReceiver
  | notSettings (kind : String)
  | notMap (kind : String)
  | notIterable (kind : String)
  | notPair (index : Nat)
  | pairLength (index length : Nat)
  | unhashable (kind : String)
  | unknownFeature (key : Value)
  | missingFeatures (map : String) (features : List Feature)
  | unknownModel (value : Value)
  | unknownMarkerSize (value : Value)
  deriving Repr

def quotedNames (names : List String) : String := (Value.list (names.map .text)).quoted

/-- The wording for a value that is none of its kind. A whole number in it that is too long to be
written is reported in its place. -/
def invalidText (v : Value) (kind : String) : String :=
  if v.tooLong then Numeral.tooLongToWrite else v.quoted ++ " is not a valid " ++ kind

def Fault.message : Fault → String
  | .notArguments kind =>
    s!"models.indicator_config.IndicatorConfig() argument after ** must be a mapping, not {kind}"
  | .unknownArgument name =>
    s!"IndicatorConfig.__init__() got an unexpected keyword argument '{name}'"
  | .repeatedReceiver => "IndicatorConfig.__init__() got multiple values for argument 'self'"
  | .notSettings kind => s!"'{kind}' object has no attribute 'get'"
  | .notMap kind => s!"'{kind}' object has no attribute 'items'"
  | .notIterable kind => s!"'{kind}' object is not iterable"
  | .notPair index => s!"cannot convert dictionary update sequence element #{index} to a sequence"
  | .pairLength index length =>
    s!"dictionary update sequence element #{index} has length {length}; 2 is required"
  | .unhashable kind => s!"unhashable type: '{kind}'"
  | .unknownFeature key => invalidText key "FeatureId"
  | .missingFeatures map features =>
    map ++ " must define every feature (missing: " ++ quotedNames (features.map Feature.id) ++ ")"
  | .unknownModel value => invalidText value "ModelType"
  | .unknownMarkerSize value => invalidText value "MarkerSize"

abbrev Entries := List (Value × Value)

def Entries.ofObject (entries : List (Chars × Value)) : Entries :=
  entries.map fun (key, v) => (.chars key, v)

def featureOf? : Value → Option Feature
  | .text name => Feature.ofId? name
  | _ => none

def Entries.last? (entries : Entries) (f : Feature) : Option Value :=
  (entries.reverse.find? fun entry => featureOf? entry.1 == some f).map (·.2)

def Entries.badKey? (entries : Entries) : Option Value :=
  (entries.find? fun entry => (featureOf? entry.1).isNone).map (·.1)

def Entries.missing (entries : Entries) : List Feature :=
  Feature.byName.filter fun f => (entries.last? f).isNone

/-- A complete map over the features. A wrong key is reported before a missing one. -/
def mapOfEntries (name : String) (entries : Entries) : Except Fault (PerFeature Value) :=
  match entries.badKey? with
  | some key => .error (.unknownFeature key)
  | none =>
    match entries.last? .rsi, entries.last? .macd, entries.last? .volume, entries.last? .price with
    | some rsi, some macd, some volume, some price => .ok ⟨rsi, macd, volume, price⟩
    | _, _, _, _ => .error (.missingFeatures name entries.missing)

def modelOf : Value → Except Fault Model
  | .text label =>
    match Model.ofLabel? label with
    | some m => .ok m
    | none => .error (.unknownModel (.text label))
  | v => .error (.unknownModel v)

def markerSizeOf : Value → Except Fault MarkerSize
  | .text label =>
    match MarkerSize.ofLabel? label with
    | some m => .ok m
    | none => .error (.unknownMarkerSize (.text label))
  | v => .error (.unknownMarkerSize v)

/-- The entry of an object, or what applies without it. -/
def entryOr (entries : List (Chars × Value)) (name : String) (standard : Value) : Value :=
  (Value.find? name entries).getD standard

def assemble (entries : List (Chars × Value)) (features weights : PerFeature Value) :
    Except Fault Config := do
  let model ← modelOf (entryOr entries "model" (.text standard.model.label))
  let markerSize ← markerSizeOf (entryOr entries "marker_size" (.text standard.markerSize.label))
  .ok
    { lookback := entryOr entries "lookback" standard.lookback
      buyThreshold := entryOr entries "buy_threshold" standard.buyThreshold
      sellThreshold := entryOr entries "sell_threshold" standard.sellThreshold
      features, weights
      bias := entryOr entries "bias" standard.bias
      model, markerSize }

def fullMap (entries : List (Chars × Value)) (name : String) (standard : PerFeature Value) :
    Except Fault (PerFeature Value) :=
  match entryOr entries name (mapValue standard) with
  | .object items => mapOfEntries name (.ofObject items)
  | v => .error (.notMap v.kind)

def argumentFault? (name : String) : Option Fault :=
  if fieldNames.contains name then none
  else if name = "self" then some .repeatedReceiver
  else some (.unknownArgument name)

def ofArguments : Value → Except Fault Config
  | .object entries =>
    match entries.findSome? fun entry => argumentFault? entry.1.shown with
    | some fault => .error fault
    | none => do
      let features ← fullMap entries "features" standard.features
      let weights ← fullMap entries "weights" standard.weights
      assemble entries features weights
  | v => .error (.notArguments v.kind)

/-- The parts that a value is iterated by: items, characters or keys. -/
def parts? : Value → Option (List Value)
  | .list items => some items
  | .chars s => some (s.points.map fun p => .chars (.ofPoints [p]))
  | .object entries => some (entries.map fun entry => .chars entry.1)
  | .scalar _ => none

/-- Whether a value can be a key; lists and objects cannot. -/
def checkKey : Value → Except Fault Value
  | .scalar s => .ok (.scalar s)
  | v => .error (.unhashable v.kind)

def pairOf (index : Nat) (v : Value) : Except Fault (Value × Value) :=
  match parts? v with
  | none => .error (.notPair index)
  | some [key, item] => do
    let key ← checkKey key
    .ok (key, item)
  | some parts => .error (.pairLength index parts.length)

/-- Overriding entries written as pairs, the first of which has the given index. -/
def pairsOf : Nat → List Value → Except Fault Entries
  | _, [] => .ok []
  | index, v :: rest => do
    let pair ← pairOf index v
    let pairs ← pairsOf (index + 1) rest
    .ok (pair :: pairs)

/-- The entries with which a value overrides a map. What counts as false overrides nothing. -/
def overridesOf (v : Value) : Except Fault Entries :=
  if v.truthy then
    match v with
    | .object entries => .ok (.ofObject entries)
    | v =>
      match parts? v with
      | some parts => pairsOf 0 parts
      | none => .error (.notIterable v.kind)
  else .ok []

/-- The entries of a map with defaults, overridden. -/
def withDefaults (standard : PerFeature Value) (overrides : Entries) : Entries :=
  standard.entries.map (fun (f, v) => (.text f.id, v)) ++ overrides

/-- The defaults overridden by an object. Unknown settings have no effect. -/
def ofSettings : Value → Except Fault Config
  | .object entries => do
    let features ← overridesOf (entryOr entries "features" .null)
    let weights ← overridesOf (entryOr entries "weights" .null)
    let features ← mapOfEntries "features" (withDefaults standard.features features)
    let weights ← mapOfEntries "weights" (withDefaults standard.weights weights)
    assemble entries features weights
  | v => .error (.notSettings v.kind)

end IndicatorDesigner.Config
