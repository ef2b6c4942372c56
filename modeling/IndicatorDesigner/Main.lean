import IndicatorDesigner.CommandLine.Run
import IndicatorDesigner.Environment
import Std.Time.Format

/-!
The program: it reads the environment, carries out what the command line asks for on real files, and
logs to standard error. It has no clipboard command to pipe a script into.
-/
namespace IndicatorDesigner.CommandLine

def report (logger : Log.Logger) (entries : List Log.Entry) : IO Unit := do
  let time ← Std.Time.PlainTime.now
  IO.eprint (Log.Entry.lines logger (time.format "HH:mm:ss") entries)

/-- Writes a script to a file, making the directories above it. -/
def writeScript (logger : Log.Logger) (script : String) (path : Path) : IO Unit := do
  IO.FS.createDirAll path.parent.toText
  IO.FS.writeFile path.toText script
  report logger [writtenEntry path]

def perform (logger : Log.Logger) : Plan → IO UInt32
  | .help => do
    IO.print help
    return 0
  | .refuse fault => do
    IO.eprint (refusalText fault)
    return 2
  | .fail failure => throw (IO.userError failure.message)
  | .emit script targets copy => do
    targets.forM (writeScript logger script)
    if targets.isEmpty then IO.print script
    if copy then report logger (copyEntries (Clipboard.copy [] .success) script)
    return 0

/-- The variables of the environment that are set, of those with the given names. -/
def setVariables (names : List String) : IO (List (String × String)) := do
  let found ← names.mapM fun name => do
    return (← IO.getEnv name).map fun text => (name, text)
  return found.filterMap id

end IndicatorDesigner.CommandLine

open IndicatorDesigner in
/-- Runs the command line with the words that it is given. -/
def main (words : List String) : IO UInt32 := do
  let settings ←
    CommandLine.setVariables ["API_HOST", "API_PORT", "SCRIPT_CACHE_SIZE", "OUTPUT_DIR"]
  match Environment.ofVariables settings, Log.Logger.setup none (← IO.getEnv "LOG_LEVEL") with
  | .error fault, _ => throw (IO.userError fault.message)
  | .ok _, .error fault => throw (IO.userError fault.message)
  | .ok environment, .ok logger =>
    CommandLine.perform logger
      (CommandLine.plan words (environment.outputDirectory.getD (Path.ofText "output")))
