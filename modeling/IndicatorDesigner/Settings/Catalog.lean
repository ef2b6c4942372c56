import IndicatorDesigner.Config.Basic
import IndicatorDesigner.Settings.Bounds

/-! Everything that a client needs to build its form. -/
namespace IndicatorDesigner.Catalog

def featureValue (f : Feature) : Value :=
  .object
    [("id", .text f.id), ("label", .text f.label), ("weight_label", .text f.weightLabel),
     ("default_enabled", .bool f.enabledByDefault), ("default_weight", .float f.defaultWeight)]

def features : Value := .list (Feature.all.map featureValue)

def models : Value := .list (Model.all.map fun m => .text m.label)

def markerSizeValue (m : MarkerSize) : Value :=
  .object [("id", .text m.id), ("label", .text m.label), ("pine", .text m.token)]

def markerSizes : Value := .list (MarkerSize.all.map markerSizeValue)

def boundsValue (b : Bounds Scalar) : Value :=
  .object [("min", .scalar b.least), ("max", .scalar b.greatest), ("step", .scalar b.step)]

def bounds : Value := .object (Bounds.table.map fun (name, b) => (name, boundsValue b))

def toValue : Value :=
  .object
    [("features", features), ("models", models), ("marker_sizes", markerSizes), ("bounds", bounds)]

end IndicatorDesigner.Catalog
