import IndicatorDesigner.Log.Level

/-!
The lines of the log: the time, the component in its colours, and the message. Warnings and errors
have a background of their own.
-/
namespace IndicatorDesigner.Log

def ansi (code : String) : String := "\x1b[" ++ code ++ "m"

def reset : String := ansi "0"

def dim : String := ansi "2"

/-- How a component is shown. -/
structure Badge where
  component : String
  colour : String
  label : String

def badges : List Badge :=
  [⟨"generator", ansi "48;5;22" ++ ansi "97", " GEN "⟩,
   ⟨"api", ansi "44" ++ ansi "97", " API "⟩,
   ⟨"startup", ansi "42" ++ ansi "30", " START "⟩,
   ⟨"shutdown", ansi "43" ++ ansi "30", " STOP "⟩,
   ⟨"websocket", ansi "48;5;17" ++ ansi "97", " WS "⟩,
   ⟨"cache", ansi "48;5;205" ++ ansi "30", " CACHE "⟩,
   ⟨"clipboard", ansi "48;5;93" ++ ansi "97", " CLIP "⟩,
   ⟨"cli", ansi "46" ++ ansi "30", " CLI "⟩,
   ⟨"app", "", " APP "⟩]

/-- The badge of a component; without one of its own it is the start of the name in upper case. -/
def badgeOf (component : String) : Badge :=
  match badges.find? fun b => b.component == component with
  | some b => b
  | none =>
    ⟨component, "", " " ++ String.ofList ((Text.upper component).toList.take 5) ++ " "⟩

/-- The background of a level, if it has one. -/
def background? (level : Level) : Option String :=
  if level = Level.warning then some (ansi "43" ++ ansi "30")
  else if level = Level.error then some (ansi "41" ++ ansi "97")
  else none

/-- The component of a logger: the last part of a dotted name. -/
def componentOf (loggerName : String) : String :=
  let chars := loggerName.toList
  if chars.contains '.' then String.ofList (chars.reverse.takeWhile (· != '.')).reverse else "app"

/-- A line of the log, without its newline. -/
def line (time loggerName : String) (level : Level) (message : String) : String :=
  let badge := badgeOf (componentOf loggerName)
  let head := dim ++ time ++ reset ++ " " ++ badge.colour ++ badge.label ++ reset ++ " "
  match background? level with
  | some background => head ++ background ++ " " ++ message ++ " " ++ reset
  | none => head ++ message

end IndicatorDesigner.Log
