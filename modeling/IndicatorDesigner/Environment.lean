import IndicatorDesigner.Numeric.Numeral
import IndicatorDesigner.Storage.Path

/-! What the environment says about where the service listens, what it keeps and where it writes. -/
namespace IndicatorDesigner

/-- The settings of the environment; without an output directory the project has one of its own. -/
structure Environment where
  host : String
  apiPort : Int
  cacheSize : Int
  outputDirectory : Option Path
  deriving Repr

namespace Environment

def standard : Environment := ⟨"0.0.0.0", 8080, 256, none⟩

/-- A number from a variable, or its default. -/
def number (text? : Option String) (standard : Int) : Except Numeral.Fault Int :=
  match text? with
  | some text => Numeral.int text
  | none => .ok standard

def ofVariables (settings : List (String × String)) : Except Numeral.Fault Environment := do
  let find (name : String) : Option String :=
    (settings.find? fun entry => entry.1 == name).map (·.2)
  let apiPort ← number (find "API_PORT") standard.apiPort
  let cacheSize ← number (find "SCRIPT_CACHE_SIZE") standard.cacheSize
  .ok
    { host := (find "API_HOST").getD standard.host
      apiPort, cacheSize
      outputDirectory := (find "OUTPUT_DIR").map Path.ofText }

end Environment
end IndicatorDesigner
