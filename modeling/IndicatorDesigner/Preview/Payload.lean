import IndicatorDesigner.Cache.Basic
import IndicatorDesigner.Log.Logger
import IndicatorDesigner.Request.Basic

/-! A script with the settings it was made from, as clients are shown it. -/
namespace IndicatorDesigner

/-- A script, its settings and its number of lines. -/
structure Payload where
  script : String
  config : Config
  lineCount : Nat

namespace Payload

/-- The payload of settings, the script being kept or made anew. -/
def make (generate : Generator) (cache : Cache) (config : Config) :
    Except Cache.Fault (Payload × Cache) := do
  let (script, cache) ← Cache.getOrGenerate generate cache config
  .ok (⟨script, config, Script.lineCount script⟩, cache)

def entry (p : Payload) : Log.Entry :=
  .debug s!"[Generator] Script ready: {p.lineCount} lines, model={p.config.model.label}"

def toValue (p : Payload) : Value :=
  .object
    [("pinescript", .text p.script), ("config", p.config.toValue), ("line_count", .int p.lineCount)]

end Payload
end IndicatorDesigner
