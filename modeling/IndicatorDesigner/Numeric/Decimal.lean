import IndicatorDesigner.Numeric.Numeral

/-!
Decimal numbers of any length and their form with two places. A half goes away from zero, and a
form of more than twenty-eight digits does not exist.
-/
namespace IndicatorDesigner

/-- A decimal number, `±coefficient · 10^exponent` when finite. -/
inductive Decimal where
  | finite (negative : Bool) (coefficient : Nat) (exponent : Int)
  | infinite (negative : Bool)
  | nan (negative signaling : Bool) (payload : Nat)
  deriving DecidableEq, Repr

namespace Decimal

inductive Fault where
  | noTwoPlaces
  | malformed
  | partCount
  | signPart
  | digitPart
  | exponentPart
  | specialPart
  | partTooLarge
  | exponentTooLarge
  | unsupported (kind : String)
  deriving DecidableEq, Repr

def Fault.message : Fault → String
  | .noTwoPlaces => "[<class 'decimal.InvalidOperation'>]"
  | .malformed => "[<class 'decimal.ConversionSyntax'>]"
  | .partCount => "argument must be a sequence of length 3"
  | .signPart => "sign must be an integer with the value 0 or 1"
  | .digitPart => "coefficient must be a tuple of digits"
  | .exponentPart => "exponent must be an integer"
  | .specialPart => "string argument in the third position must be 'F', 'n' or 'N'"
  | .partTooLarge => "Python int too large to convert to C long"
  | .exponentTooLarge => "Python int too large to convert to C ssize_t"
  | .unsupported kind => s!"conversion from {kind} to Decimal is not supported"

def leastExponent : Int := -1999999999999999997

/-- The greatest exponent that the first digit of a finite decimal number may have. -/
def greatestExponent : Int := 999999999999999999

def finite? (negative : Bool) (coefficient : Nat) (exponent : Int) : Except Fault Decimal :=
  if leastExponent ≤ exponent ∧ exponent + digitCount coefficient - 1 ≤ greatestExponent then
    .ok (.finite negative coefficient exponent)
  else .error .noTwoPlaces

def payload? (s : List Char) : Option Nat :=
  if s.all Char.isDigit then some (Numeral.digitsValue s) else none

def special? (negative : Bool) : List Char → Option Decimal
  | ['i', 'n', 'f'] => some (.infinite negative)
  | ['i', 'n', 'f', 'i', 'n', 'i', 't', 'y'] => some (.infinite negative)
  | 'n' :: 'a' :: 'n' :: rest => (payload? rest).map (.nan negative false)
  | 's' :: 'n' :: 'a' :: 'n' :: rest => (payload? rest).map (.nan negative true)
  | _ => none

/-- Reads a decimal number. Gaps around it and underscores anywhere are ignored, and its digits may
come from any script. -/
def ofText (s : String) : Except Fault Decimal :=
  let core := Numeral.foldDigits ((Text.trimBoth Text.isGap s.toList).filter (· != '_'))
  match Numeral.takeSign core with
  | (negative, body) =>
    match special? negative (body.map Char.toLower), Numeral.readDecimal? body with
    | some special, _ => .ok special
    | none, some (digits, exponent) => finite? negative digits exponent
    | none, none => .error .malformed

def hundredthsText (negative : Bool) (hundredths : Nat) : String :=
  (if negative then "-" else "") ++ toString (hundredths / 100) ++ "."
    ++ toString (hundredths / 10 % 10) ++ toString (hundredths % 10)

/-- The quotient in hundredths to the nearest whole number, a half going up. -/
def roundHalfUp (num den : Nat) : Nat := (200 * num + den) / (2 * den)

def ofHundredths (negative : Bool) (hundredths : Nat) : Except Fault String :=
  if hundredths < tenTo 28 then .ok (hundredthsText negative hundredths) else .error .noTwoPlaces

/-- The form with two places of an exact number; zero has no sign. -/
def ofRat (r : Rat) : Except Fault String :=
  if r.num = 0 then .ok "0.00"
  else ofHundredths (decide (r.num < 0)) (roundHalfUp r.num.natAbs r.den)

/-- The text of a NaN keeps its last twenty-eight payload digits. -/
def nanText (negative : Bool) (payload : Nat) : String :=
  let kept := payload % tenTo 28
  (if negative then "-NaN" else "NaN") ++ (if kept = 0 then "" else toString kept)

/-- The form with two places of a decimal number. Sizes far outside are settled without computing
the power. -/
def twoPlaces : Decimal → Except Fault String
  | .finite negative 0 _ => ofHundredths negative 0
  | .finite negative coefficient exponent =>
    if 40 ≤ exponent then .error .noTwoPlaces
    else if 0 ≤ exponent then
      ofHundredths negative (roundHalfUp (coefficient * tenTo exponent.toNat) 1)
    else if exponent + digitCount coefficient < -3 then ofHundredths negative 0
    else ofHundredths negative (roundHalfUp coefficient (tenTo (-exponent).toNat))
  | .infinite _ => .error .noTwoPlaces
  | .nan _ true _ => .error .noTwoPlaces
  | .nan negative false payload => .ok (nanText negative payload)

end Decimal
end IndicatorDesigner
