import IndicatorDesigner.Value.Printer

/-! Values as compact JSON text. Characters outside ASCII stand for themselves. -/
namespace IndicatorDesigner.Json

def escapeChar (c : Char) : List Char :=
  if c = '"' then ['\\', '"']
  else if c = '\\' then ['\\', '\\']
  else if c = '\n' then ['\\', 'n']
  else if c = '\r' then ['\\', 'r']
  else if c = '\t' then ['\\', 't']
  else if c = '\x0c' then ['\\', 'f']
  else if c = '\x08' then ['\\', 'b']
  else if c.toNat < 0x20 then '\\' :: 'u' :: Text.hexDigits 4 c.toNat
  else [c]

def writeString (s : String) : String := "\"" ++ String.ofList (s.toList.flatMap escapeChar) ++ "\""

/-- Characters in double quotes; half of a surrogate pair is escaped. -/
def writeChars : Chars → String
  | .text s => writeString s
  | .broken points =>
    "\"" ++ String.ofList (points.flatMap fun p =>
      if Text.isSurrogate p then '\\' :: 'u' :: Text.hexDigits 4 p else escapeChar (Char.ofNat p))
      ++ "\""

/-- Infinities and NaN are written as words. -/
def numberLayout : Shortest.Layout :=
  { IndicatorDesigner.numberLayout with infinity := "Infinity", nan := "NaN" }

def writeScalar : Scalar → String
  | .null => "null"
  | .bool b => if b then "true" else "false"
  | .int n => toString n
  | .float x => numberLayout.write x
  | .text s => writeChars s

mutual

/-- A value in JSON, without blanks. -/
def write : Value → String
  | .scalar s => writeScalar s
  | .list items => "[" ++ ",".intercalate (writeItems items) ++ "]"
  | .object entries => "\x7b" ++ ",".intercalate (writeEntries entries) ++ "\x7d"
termination_by structural v => v

def writeItems : List Value → List String
  | [] => []
  | v :: rest => write v :: writeItems rest
termination_by structural vs => vs

def writeEntries : List (Chars × Value) → List String
  | [] => []
  | (key, v) :: rest => (writeChars key ++ ":" ++ write v) :: writeEntries rest
termination_by structural es => es

end

end IndicatorDesigner.Json
