import IndicatorDesigner.Numeric.Numeral
import IndicatorDesigner.Numeric.Shortest
import IndicatorDesigner.Text.Quoted
import IndicatorDesigner.Value.Basic

/-! Values as text, bare or as they are quoted in messages. -/
namespace IndicatorDesigner

/-- Numbers are written positionally from 1e-04 up to 1e+16, otherwise with an exponent of at least
two digits. -/
def numberLayout : Shortest.Layout :=
  { leastPositional := -4, leastScientific := 16, mark := "e", exponentWidth := 2,
    infinity := "inf", nan := "nan" }

/-- The text of a binary64 number. -/
def Binary64.text (x : Binary64) : String := numberLayout.write x

def Chars.quoted : Chars → String
  | .text s => Text.quoted s
  | .broken points => Text.quotedPoints points

def Scalar.quoted : Scalar → String
  | .null => "None"
  | .bool b => if b then "True" else "False"
  | .int n => toString n
  | .float x => x.text
  | .text s => s.quoted

/-- Whether a scalar is a whole number too long to be written. -/
def Scalar.tooLong : Scalar → Bool
  | .int n => Numeral.maxDigits < digitCount n.natAbs
  | _ => false

namespace Value

mutual

def quoted : Value → String
  | .scalar s => s.quoted
  | .list items => "[" ++ ", ".intercalate (quotedItems items) ++ "]"
  | .object entries => "\x7b" ++ ", ".intercalate (quotedEntries entries) ++ "\x7d"
termination_by structural v => v

def quotedItems : List Value → List String
  | [] => []
  | v :: rest => quoted v :: quotedItems rest
termination_by structural vs => vs

def quotedEntries : List (Chars × Value) → List String
  | [] => []
  | (key, v) :: rest => (key.quoted ++ ": " ++ quoted v) :: quotedEntries rest
termination_by structural es => es

end

/-- The plain text of a value: a text is itself, all else is as quoted. -/
def plain : Value → String
  | .chars s => s.shown
  | v => v.quoted

mutual

/-- Whether a value holds a whole number too long to be written. -/
def tooLong : Value → Bool
  | .scalar s => s.tooLong
  | .list items => tooLongItems items
  | .object entries => tooLongEntries entries
termination_by structural v => v

def tooLongItems : List Value → Bool
  | [] => false
  | v :: rest => tooLong v || tooLongItems rest
termination_by structural vs => vs

def tooLongEntries : List (Chars × Value) → Bool
  | [] => false
  | (_, v) :: rest => tooLong v || tooLongEntries rest
termination_by structural es => es

end

example : quoted (.list [.int 1, .text "x", .float 1e16, .object [("k", .null)]])
    = "[1, 'x', 1e+16, \x7b'k': None\x7d]" := by decide

end Value
end IndicatorDesigner
