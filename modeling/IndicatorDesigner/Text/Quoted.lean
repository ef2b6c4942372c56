import IndicatorDesigner.Text.CodePoint
import IndicatorDesigner.Text.Hexadecimal
import IndicatorDesigner.Text.Printable

/-! Text in quotation marks, as it appears in messages. -/
namespace IndicatorDesigner.Text

/-- Single quotes, unless the text holds one and no double quote. -/
def quoteMark (s : List Char) : Char :=
  if s.contains '\'' && !s.contains '"' then '"' else '\''

/-- A character between the given quotes: the quote, the backslash and what is not printable are
escaped. -/
def quoteChar (mark c : Char) : List Char :=
  if c == mark || c == '\\' then ['\\', c]
  else if c == '\n' then ['\\', 'n']
  else if c == '\r' then ['\\', 'r']
  else if c == '\t' then ['\\', 't']
  else if isPrintable c then [c]
  else if c.toNat < 0x100 then '\\' :: 'x' :: hexDigits 2 c.toNat
  else if c.toNat < 0x10000 then '\\' :: 'u' :: hexDigits 4 c.toNat
  else '\\' :: 'U' :: hexDigits 8 c.toNat

def quoted (s : String) : String :=
  let mark := quoteMark s.toList
  String.ofList (mark :: s.toList.flatMap (quoteChar mark) ++ [mark])

/-- A code point between the given quotes; half of a surrogate pair is escaped. -/
def quotePoint (mark : Char) (point : Nat) : List Char :=
  if isSurrogate point then '\\' :: 'u' :: hexDigits 4 point else quoteChar mark (Char.ofNat point)

def quotedPoints (points : List Nat) : String :=
  let mark := quoteMark (points.map Char.ofNat)
  String.ofList (mark :: points.flatMap (quotePoint mark) ++ [mark])

example : quoted "it's\n" = "\"it's\\n\"" ∧ quoted "a\"'" = "'a\"\\''" := by decide

end IndicatorDesigner.Text
