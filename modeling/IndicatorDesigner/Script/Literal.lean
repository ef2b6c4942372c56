import IndicatorDesigner.Config.Basic
import IndicatorDesigner.Numeric.Decimal
import IndicatorDesigner.Numeric.Word
import IndicatorDesigner.Value.Printer

/-! How settings are written in a script: numbers with two places, switches and lists of options. -/
namespace IndicatorDesigner.Script

/-- A whole number; a switch counts as zero or one. -/
def wholeOf? : Value → Option Int
  | .int n => some n
  | .bool b => some (if b then 1 else 0)
  | _ => none

/-- A whole number of sixty-four bits, and the faults for what is none and for what is greater. -/
def wordOf (none tooLarge : Decimal.Fault) (v : Value) : Except Decimal.Fault Int :=
  match wholeOf? v with
  | .none => .error none
  | .some n => if fitsWord n then .ok n else .error tooLarge

/-- A sign, true for minus. -/
def signOf (v : Value) : Except Decimal.Fault Bool := do
  let n ← wordOf .signPart .partTooLarge v
  if n = 0 then .ok false else if n = 1 then .ok true else .error .signPart

/-- A list of whole numbers as the number that has them as its digits. -/
def digitsOf : Value → Except Decimal.Fault Nat
  | .list items =>
    items.foldlM (fun n item => do
      let d ← wordOf .digitPart .partTooLarge item
      if 0 ≤ d ∧ d ≤ 9 then .ok (n * 10 + d.toNat) else .error .digitPart) 0
  | _ => .error .digitPart

/-- A decimal number given as sign, digits and exponent. The digits are judged last, and a letter in
place of the exponent means a special number. -/
def decimalOfParts (sign digits exponent : Value) : Except Decimal.Fault Decimal := do
  let negative ← signOf sign
  match exponent with
  | .text "F" => do
    let _ ← digitsOf digits
    .ok (.infinite negative)
  | .text "n" => do .ok (.nan negative false (← digitsOf digits))
  | .text "N" => do .ok (.nan negative true (← digitsOf digits))
  | .chars _ => .error .specialPart
  | exponent => do
    let e ← wordOf .exponentPart .exponentTooLarge exponent
    Decimal.finite? negative (← digitsOf digits) e

/-- A number with two places. A half goes away from zero, zero has no sign, and a text is read as a
decimal number. -/
def numberText : Value → Except Decimal.Fault String
  | .null => .error (.unsupported Value.null.kind)
  | .bool b => Decimal.ofRat (if b then 1 else 0)
  | .int n => Decimal.ofRat n
  | .float .nan => .ok (Decimal.nanText false 0)
  | .float x =>
    match x.toRat? with
    | some r => Decimal.ofRat r
    | none => .error .noTwoPlaces
  | .text s => do (← Decimal.ofText s).twoPlaces
  | .broken _ => .error .malformed
  | .list [sign, digits, exponent] => do (← decimalOfParts sign digits exponent).twoPlaces
  | .list _ => .error .partCount
  | .object entries => .error (.unsupported (Value.object entries).kind)

def switchText (on : Bool) : String := if on then "true" else "false"

/-- A text between quotes, taken as it is. -/
def quote (s : String) : String := "'" ++ s ++ "'"

def optionList (options : List String) : String :=
  "[" ++ ", ".intercalate (options.map quote) ++ "]"

/-- Why settings have no script. -/
inductive Fault where
  | number (fault : Decimal.Fault)
  | tooLong
  deriving DecidableEq, Repr

def Fault.message : Fault → String
  | .number fault => fault.message
  | .tooLong => Numeral.tooLongToWrite

def plainText (v : Value) : Except Fault String :=
  if v.tooLong then .error .tooLong else .ok v.plain

def number (v : Value) : Except Fault String := (numberText v).mapError .number

end IndicatorDesigner.Script
