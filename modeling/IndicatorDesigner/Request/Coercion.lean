import IndicatorDesigner.Numeric.Numeral
import IndicatorDesigner.Numeric.Word
import IndicatorDesigner.Request.Issue
import IndicatorDesigner.Settings.Bounds

/-!
Submitted values as whole numbers, numbers, switches and choices. Values of a near kind are taken
for what they plainly mean: a numeral for its number, `yes` for a switch that is on.
-/
namespace IndicatorDesigner.Coercion

open Issue (Cause)

/-- Whether an exact number is within 64 bits; the least one is not counted. -/
def inWordRange (r : Rat) : Bool := -9223372036854775808 < r && r < 9223372036854775808

/-- The whole number that a binary64 number is. -/
def intOfFloat (x : Binary64) : Except Cause Int :=
  match x.toRat? with
  | none => .error .infiniteNumber
  | some r =>
    if r.den ≠ 1 then .error .fractionalPart
    else if inWordRange r then .ok r.num
    else .error .intTooLarge

/-- Whether underscores stand neither at an end nor next to each other. -/
def underscoresOk (s : List Char) : Bool :=
  s.head? != some '_' && s.getLast? != some '_'
    && !(s.zip (s.drop 1)).any fun (a, b) => a == '_' && b == '_'

def dropUnderscores? (s : List Char) : Option (List Char) :=
  if underscoresOk s then some (s.filter (· != '_')) else none

/-- A whole number written plainly: at most a minus sign, and no leading zeros. Its length is judged
before what follows it. -/
def plainInt (s : List Char) : Except Cause Int :=
  let (negative, body) := match s with
    | '-' :: rest => (true, rest)
    | _ => (false, s)
  let digits := Numeral.wholePart body
  if Numeral.maxDigits < digits.length then .error .intTooLarge
  else if digits = [] ∨ digits.length < body.length then .error .intUnreadable
  else .ok (Numeral.signed negative (Numeral.digitsValue digits))

/-- A text that starts with a digit, without its leading zeros and the underscores among them. A
last zero stays at the end and before a point. -/
def dropLeadingZeros? : List Char → Option (List Char)
  | [] => none
  | c :: rest =>
    if c = '0' then
      let zeros := rest.takeWhile fun x => x == '0' || x == '_'
      match rest.drop zeros.length with
      | [] => some [(c :: zeros).getLastD c]
      | '.' :: fraction => some ((c :: zeros).getLastD c :: '.' :: fraction)
      | digits => some digits
    else if c.isDigit then some (c :: rest)
    else none

def dropZeroFraction (s : List Char) : List Char :=
  let whole := s.takeWhile (· != '.')
  match s.drop whole.length with
  | _ :: zeros => if !zeros.isEmpty && zeros.all (· == '0') then whole else s
  | [] => s

def plainForm? (s : List Char) : Option (List Char) := do
  dropUnderscores? (dropZeroFraction (← dropLeadingZeros? s))

/-- The plain form of a whole number, which blanks may surround and a sign may lead. -/
def signedPlainForm? (s : List Char) : Option (List Char) :=
  match Text.trimBoth Text.isBlank s with
  | '-' :: rest => (plainForm? rest).map ('-' :: ·)
  | '+' :: rest => plainForm? rest
  | rest => plainForm? rest

/-- A whole number in ASCII digits. It is tried as it stands, and if it is not too long already, in
its plain form. -/
def intOfText (s : String) : Except Cause Int :=
  match plainInt s.toList with
  | .ok n => .ok n
  | .error .intTooLarge => .error .intTooLarge
  | .error _ =>
    match (signedPlainForm? s.toList).map plainInt with
    | some (.ok n) => .ok n
    | _ => .error .intUnreadable

/-- A whole number. Characters that are no text are nothing, whatever is asked for. -/
def int : Value → Except Cause Int
  | .int n => .ok n
  | .bool b => .ok (if b then 1 else 0)
  | .float x => intOfFloat x
  | .text s => intOfText s
  | .broken _ => .error .brokenText
  | _ => .error .intExpected

/-- A number in ASCII digits. Either blanks may surround it or underscores stand in it. -/
def floatOfText (s : String) : Except Cause Binary64 :=
  match Numeral.readBinary64? (Text.trimBoth Text.isBlank s.toList),
      (dropUnderscores? s.toList).bind Numeral.readBinary64? with
  | some x, _ => .ok x
  | none, some x => .ok x
  | none, none => .error .numberUnreadable

def floatOfInt (n : Int) : Except Cause Binary64 :=
  if (Binary64.ofInt n).isFinite then .ok (Binary64.ofInt n) else .error .numberExpected

def float : Value → Except Cause Binary64
  | .float x => .ok x
  | .int n => floatOfInt n
  | .bool b => floatOfInt (if b then 1 else 0)
  | .text s => floatOfText s
  | .broken _ => .error .brokenText
  | _ => .error .numberExpected

def onWords : List String := ["1", "on", "t", "true", "y", "yes"]

def offWords : List String := ["0", "off", "f", "false", "n", "no"]

def switchOfText (s : String) : Except Cause Bool :=
  let word := String.ofList (s.toList.map Char.toLower)
  if onWords.contains word then .ok true
  else if offWords.contains word then .ok false
  else .error .switchUnreadable

def switchOfInt (n : Int) : Except Cause Bool :=
  if n = 0 then .ok false
  else if n = 1 then .ok true
  else if fitsWord n then .error .switchUnreadable
  else .error .switchExpected

def switch : Value → Except Cause Bool
  | .bool b => .ok b
  | .int n => switchOfInt n
  | .float x =>
    match intOfFloat x with
    | .ok n => switchOfInt n
    | .error _ => .error .switchExpected
  | .text s => switchOfText s
  | .broken _ => .error .brokenText
  | _ => .error .switchExpected

def choice {α : Type} (find? : String → Option α) (options : List String) (v : Value) :
    Except Cause α :=
  match v with
  | .text s =>
    match find? s with
    | some a => .ok a
    | none => .error (.notAnOption options)
  | .broken _ => .error .brokenText
  | _ => .error (.notAnOption options)

/-- A whole number within bounds; the greater one is checked first. -/
def boundedInt (b : Bounds Int) (v : Value) : Except Cause Int := do
  let n ← int v
  if b.greatest < n then .error (.tooLarge (.int b.greatest))
  else if n < b.least then .error (.tooSmall (.int b.least))
  else .ok n

/-- A number within bounds; the greater one is checked first, and NaN is not within any. -/
def boundedFloat (b : Bounds Binary64) (v : Value) : Except Cause Binary64 := do
  let x ← float v
  if !x.le b.greatest then .error (.tooLarge (.float b.greatest))
  else if !b.least.le x then .error (.tooSmall (.float b.least))
  else .ok x

end IndicatorDesigner.Coercion
