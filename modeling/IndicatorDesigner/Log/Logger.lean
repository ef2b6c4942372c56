import IndicatorDesigner.Log.Line

/-!
Writing to the log. A message whose component is not given is routed by the mark at its start, of
which exactly one is removed.
-/
namespace IndicatorDesigner.Log

/-- The marks at the start of a message, and the components they route to. -/
def marks : List (String × String) :=
  [("[Generator] ", "generator"), ("[API] ", "api"), ("[Startup] ", "startup"),
   ("[Shutdown] ", "shutdown"), ("[WebSocket] ", "websocket"), ("[WS] ", "websocket"),
   ("[Cache] ", "cache"), ("[Clipboard] ", "clipboard"), ("[CLI] ", "cli")]

def afterStart? (start text : String) : Option String :=
  if start.toList.isPrefixOf text.toList then some (String.ofList (text.toList.drop start.length))
  else none

/-- The component of a message and the message without its mark. -/
def route (message : String) : String × String :=
  (marks.findSome? fun (mark, component) =>
    (afterStart? mark message).map fun rest => (component, rest)).getD ("app", message)

/-- The logger of the program, with the level that is set. -/
structure Logger where
  level : Level
  deriving DecidableEq, Repr

namespace Logger

def name : String := "pinegen"

def handlerCount : Nat := 1

def propagates : Bool := false

def standard : Logger := ⟨Level.debug⟩

/-- The logger for a level by name: the one asked for, else the one of the environment, else
debugging. A name that is not known counts as debugging. -/
def setup (asked environment : Option String) : Except Fault Logger := do
  .ok ⟨← levelNamed ((asked.or environment).getD "DEBUG") Level.debug⟩

/-- The least level that is written. When no level is set, it is that of warnings. -/
def threshold (l : Logger) : Level := if l.level = Level.notset then Level.warning else l.level

/-- The line of a message for a component, if it is written. -/
def emit (l : Logger) (time component : String) (level : Level) (message : String) :
    Option String :=
  if Level.notset < level ∧ l.threshold ≤ level then
    some (line time (name ++ "." ++ component) level message ++ "\n")
  else none

/-- The line of a message at a level, if it is written. Only a message without a given component is
routed. -/
def write (l : Logger) (time : String) (level : Level) (message : String)
    (component : Option String) : Option String :=
  match component with
  | some component => l.emit time component level message
  | none => l.emit time (route message).1 level (route message).2

/-- The line of a message at a level by name, if it is written. An unknown name counts as
information. -/
def log (l : Logger) (time message levelName : String) (component : Option String) :
    Except Fault (Option String) :=
  match levelNamed levelName Level.info with
  | .ok level => .ok (l.write time level message component)
  | .error _ => .error .notLevel

end Logger

/-- A message that the program logs of its own accord. -/
structure Entry where
  level : Level
  message : String
  deriving DecidableEq, Repr

namespace Entry

def debug (message : String) : Entry := ⟨Level.debug, message⟩
def info (message : String) : Entry := ⟨Level.info, message⟩
def warning (message : String) : Entry := ⟨Level.warning, message⟩
def error (message : String) : Entry := ⟨Level.error, message⟩

def lines (l : Logger) (time : String) (entries : List Entry) : String :=
  String.join (entries.filterMap fun e => l.write time e.level e.message none)

end Entry
end IndicatorDesigner.Log
