import IndicatorDesigner.Text.UpperCase

/-! Log levels and the names by which they are asked for. -/
namespace IndicatorDesigner.Log

/-- A level; a message is written when its level is at least the one that is set. -/
abbrev Level := Int

namespace Level

def notset : Level := 0
def debug : Level := 10
def info : Level := 20
def warning : Level := 30
def error : Level := 40
def critical : Level := 50

def name (l : Level) : String :=
  if l = notset then "NOTSET"
  else if l = debug then "DEBUG"
  else if l = info then "INFO"
  else if l = warning then "WARNING"
  else if l = error then "ERROR"
  else if l = critical then "CRITICAL"
  else "Level " ++ toString l

/-- The names of levels. Some levels have two. -/
def names : List (String × Level) :=
  [("NOTSET", notset), ("DEBUG", debug), ("INFO", info), ("WARN", warning), ("WARNING", warning),
   ("ERROR", error), ("CRITICAL", critical), ("FATAL", critical)]

end Level

/-- Why a name gives no level. Two names are taken by something that is no level. -/
inductive Fault where
  | format
  | styles
  | notLevel
  deriving DecidableEq, Repr

def Fault.message : Fault → String
  | .format => "Unknown level: '%(levelname)s:%(name)s:%(message)s'"
  | .styles =>
    "Level not an integer or a valid string: \x7b'%': (<class 'logging.PercentStyle'>, "
      ++ "'%(levelname)s:%(name)s:%(message)s'), '\x7b': (<class 'logging.StrFormatStyle'>, "
      ++ "'\x7blevelname\x7d:\x7bname\x7d:\x7bmessage\x7d'), '$': "
      ++ "(<class 'logging.StringTemplateStyle'>, "
      ++ "'$\x7blevelname\x7d:$\x7bname\x7d:$\x7bmessage\x7d')\x7d"
  | .notLevel => "level must be an integer"

/-- The names that are taken by something that is no level. -/
def reserved : List (String × Fault) := [("BASIC_FORMAT", .format), ("_STYLES", .styles)]

/-- The level with a name in any case, or the given one if there is no such name. -/
def levelNamed (name : String) (otherwise : Level) : Except Fault Level :=
  let name := Text.upper name
  match Level.names.find? fun entry => entry.1 == name,
      reserved.find? fun entry => entry.1 == name with
  | some (_, level), _ => .ok level
  | none, some (_, fault) => .error fault
  | none, none => .ok otherwise

end IndicatorDesigner.Log
