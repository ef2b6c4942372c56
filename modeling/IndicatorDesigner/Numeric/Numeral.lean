import IndicatorDesigner.Numeric.Binary64
import IndicatorDesigner.Text.Blank
import IndicatorDesigner.Text.DecimalDigit
import IndicatorDesigner.Text.Quoted

/-!
Whole and binary64 numbers written in decimal. Blanks around a number are ignored, its digits may
come from any script, and a single underscore may stand between two digits.
-/
namespace IndicatorDesigner.Numeral

/-- A leading sign, true for minus, and what follows it. -/
def takeSign : List Char → Bool × List Char
  | '-' :: rest => (true, rest)
  | '+' :: rest => (false, rest)
  | rest => (false, rest)

def digitsValue (digits : List Char) : Nat :=
  digits.foldl (fun n c => n * 10 + (c.toNat - '0'.toNat)) 0

def signed (negative : Bool) (size : Nat) : Int := if negative then -(size : Int) else size

def leadingDigits (s : List Char) : List Char := s.takeWhile Char.isDigit

/-- The whole part of a plain number: a zero, or digits that do not start with one. -/
def wholePart : List Char → List Char
  | '0' :: _ => ['0']
  | s => leadingDigits s

def readSigned? (s : List Char) : Option Int :=
  match takeSign s with
  | (negative, digits) =>
    if digits ≠ [] ∧ digits.all Char.isDigit then some (signed negative (digitsValue digits))
    else none

/-- The exponent at the end of a decimal numeral: nothing, or `e` and a whole number. -/
def readExponent? : List Char → Option Int
  | [] => some 0
  | 'e' :: rest => readSigned? rest
  | 'E' :: rest => readSigned? rest
  | _ => none

/-- An unsigned decimal numeral as a whole number and a power of ten. Digits may be missing on one
side of the point. -/
def readDecimal? (s : List Char) : Option (Nat × Int) :=
  let whole := s.takeWhile Char.isDigit
  let rest := s.dropWhile Char.isDigit
  let fraction := match rest with
    | '.' :: tail => tail.takeWhile Char.isDigit
    | _ => []
  let rest := match rest with
    | '.' :: tail => tail.dropWhile Char.isDigit
    | _ => rest
  if whole = [] ∧ fraction = [] then none
  else (readExponent? rest).map fun exponent =>
    (digitsValue (whole ++ fraction), exponent - fraction.length)

def readBinary64? (s : List Char) : Option Binary64 :=
  match takeSign s with
  | (negative, body) =>
    let word := String.ofList (body.map Char.toLower)
    if word = "inf" ∨ word = "infinity" then some (.infinite negative)
    else if word = "nan" then some .nan
    else (readDecimal? body).map fun (digits, exponent) => .ofDecimal negative digits exponent

/-- Whether each underscore has a digit on both sides; the flag tells whether one stands before. -/
def separatorsOk : Bool → List Char → Bool
  | _, [] => true
  | after, '_' :: rest =>
    after && (match rest with | c :: _ => c.isDigit | [] => false) && separatorsOk false rest
  | _, c :: rest => separatorsOk c.isDigit rest

def dropSeparators? (s : List Char) : Option (List Char) :=
  if separatorsOk false s then some (s.filter (· != '_')) else none

def foldDigits (s : List Char) : List Char :=
  s.map fun c => match Text.digitValue? c with
    | some n => Nat.digitChar n
    | none => c

def core (s : String) : List Char := foldDigits (Text.trimBoth Text.isBlank s.toList)

def float? (s : String) : Option Binary64 := (dropSeparators? (core s)).bind readBinary64?

inductive Fault where
  | malformed (text : String)
  | tooLong (digits : Nat)
  deriving DecidableEq, Repr

/-- The most digits that a whole number is read or written with. -/
def maxDigits : Nat := 4300

def limitText : String := s!"Exceeds the limit ({maxDigits} digits) for integer string conversion"

def limitAdvice : String := "; use sys.set_int_max_str_digits() to increase the limit"

def tooLongMessage (digits : Nat) : String :=
  limitText ++ s!": value has {digits} digits" ++ limitAdvice

def tooLongToWrite : String := limitText ++ limitAdvice

/-- The wording of a fault; a long text is cut. -/
def Fault.message : Fault → String
  | .malformed text =>
    "invalid literal for int() with base 10: " ++ String.ofList ((Text.quoted text).toList.take 200)
  | .tooLong digits => tooLongMessage digits

/-- A whole number. Its length is judged before what follows the digits. -/
def int (s : String) : Except Fault Int :=
  match takeSign (core s) with
  | (negative, body) =>
    let run := body.takeWhile fun c => c.isDigit || c == '_'
    match dropSeparators? run with
    | none => .error (.malformed s)
    | some digits =>
      if digits = [] then .error (.malformed s)
      else if maxDigits < digits.length then .error (.tooLong digits.length)
      else if run.length < body.length then .error (.malformed s)
      else .ok (signed negative (digitsValue digits))

example : int " -1_000 " = .ok (-1000) ∧ int "1__0" = .error (.malformed "1__0") := ⟨rfl, rfl⟩

example : float? "٣.5e1" = some 35.0 ∧ float? "1_e1" = none
    ∧ float? "-inf" = some (.infinite true) := by
  decide

end IndicatorDesigner.Numeral
