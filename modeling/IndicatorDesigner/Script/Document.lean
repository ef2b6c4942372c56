import IndicatorDesigner.Script.Block

/-! The whole script: its blocks in order, an empty line between them, and a newline at the end. -/
namespace IndicatorDesigner.Script

/-- The texts of all blocks, in order. The first fault is reported. -/
def blockTexts (c : Config) : Except Fault (List String) := Block.all.mapM (Block.render c)

def namedBlocks (c : Config) : Except Fault (List (String × String)) := do
  .ok ((Block.all.map Block.name).zip (← blockTexts c))

/-- The script for given settings. -/
def generate (c : Config) : Except Fault String := do
  .ok ("\n\n".intercalate (← blockTexts c) ++ "\n")

def fileName : String := "agentic_ml_signal_suite.pine"

/-- How many newlines a text has. -/
def lineCount (script : String) : Nat := script.toList.count '\n'

end IndicatorDesigner.Script
