import IndicatorDesigner.Numeric.Binary64

/-!
The fewest decimal digits that read back to the same binary64 number. For each digit count the two
neighbours of the value on that decimal grid are tried against the interval that rounds to it.
-/
namespace IndicatorDesigner.Shortest

/-- The number `0.d₁d₂… · 10^point`, its digits without trailing zeros. -/
structure Digits where
  digits : List Nat
  point : Int
  deriving DecidableEq, Repr

/-- A value between the ends of the interval that rounds to it, over one denominator. -/
structure Interval where
  low : Nat
  value : Nat
  high : Nat
  den : Nat
  closed : Bool
  deriving DecidableEq, Repr

/-- The interval of a finite number: half a step to each side, a quarter below a power of two. The
ends belong to it when the mantissa is even. -/
def Interval.of (mantissa : Nat) (exponent : Int) : Interval :=
  let step := twoTo exponent.toNat
  let down := if mantissa = 4503599627370496 ∧ -1074 < exponent then step else 2 * step
  { low := 4 * mantissa * step - down
    value := 4 * mantissa * step
    high := 4 * mantissa * step + 2 * step
    den := 4 * twoTo (-exponent).toNat
    closed := mantissa % 2 == 0 }

def Interval.holds (i : Interval) (n : Nat) (grid : Int) : Bool :=
  let point := n * tenTo grid.toNat * i.den
  let scale := tenTo (-grid).toNat
  if i.closed then i.low * scale ≤ point && point ≤ i.high * scale
  else i.low * scale < point && point < i.high * scale

/-- The least power of ten above the value, for a value whose binary exponent is given. -/
def Interval.pointOf (i : Interval) (log2 : Int) : Int :=
  let guess := log2 * 30103 / 100000
  let below (k : Int) : Bool := i.value * tenTo (-k).toNat < tenTo k.toNat * i.den
  if below guess then guess else if below (guess + 1) then guess + 1 else guess + 2

/-- The neighbour of the value on the grid that is in the interval; of two the nearer, and of two
equally near ones the even one. -/
def Interval.pick (i : Interval) (grid : Int) : Option Nat :=
  let num := i.value * tenTo (-grid).toNat
  let den := tenTo grid.toNat * i.den
  let lower := num / den
  let rest := num % den
  match i.holds lower grid, i.holds (lower + 1) grid with
  | true, true =>
    if 2 * rest < den ∨ 2 * rest = den ∧ lower % 2 = 0 then some lower else some (lower + 1)
  | true, false => some lower
  | false, true => some (lower + 1)
  | false, false => none

def decimalDigits (n : Nat) : List Nat :=
  (toString n).toList.map fun c => c.toNat - 48

def dropTrailingZeros (digits : List Nat) : List Nat :=
  (digits.reverse.dropWhile (· == 0)).reverse

/-- Tries digit counts from `count` upwards, at most `fuel` of them. -/
def search (i : Interval) (point : Int) : Nat → Nat → Digits
  | 0, _ => ⟨[], point⟩
  | fuel + 1, count =>
    match i.pick (point - count) with
    | some n =>
      let digits := decimalDigits n
      ⟨dropTrailingZeros digits, point - count + digits.length⟩
    | none => search i point fuel (count + 1)

/-- The shortest digits of a finite number other than zero; seventeen always suffice. -/
def ofParts (mantissa : Nat) (exponent : Int) : Digits :=
  let i := Interval.of mantissa exponent
  search i (i.pointOf (mantissa.log2 + exponent)) 17 1

/-- How digits are laid out: between which exponents positionally, and what surrounds them. -/
structure Layout where
  leastPositional : Int
  leastScientific : Int
  mark : String
  exponentWidth : Nat
  infinity : String
  nan : String

def Digits.chars (d : Digits) : List Char := d.digits.map Nat.digitChar

def Digits.positional (d : Digits) : String :=
  if d.point ≤ 0 then "0." ++ String.ofList (List.replicate (-d.point).toNat '0' ++ d.chars)
  else
    let whole := d.point.toNat
    let padded := d.chars ++ List.replicate (whole - d.digits.length) '0'
    let fraction := padded.drop whole
    String.ofList (padded.take whole) ++ "."
      ++ (if fraction = [] then "0" else String.ofList fraction)

def padLeft (width n : Nat) : String :=
  let digits := toString n
  String.ofList (List.replicate (width - digits.length) '0') ++ digits

/-- One digit, the point if more follow, and the exponent with its sign. -/
def Digits.scientific (l : Layout) (d : Digits) : String :=
  let exponent := d.point - 1
  String.ofList (match d.chars with
    | [] => ['0']
    | [c] => [c]
    | c :: rest => c :: '.' :: rest)
  ++ l.mark ++ (if exponent < 0 then "-" else "+") ++ padLeft l.exponentWidth exponent.natAbs

def Layout.write (l : Layout) : Binary64 → String
  | .nan => l.nan
  | .infinite negative => (if negative then "-" else "") ++ l.infinity
  | .finite negative mantissa exponent _ =>
    (if negative then "-" else "") ++
      if mantissa = 0 then "0.0"
      else
        let digits := ofParts mantissa exponent
        if l.leastPositional ≤ digits.point - 1 ∧ digits.point - 1 < l.leastScientific then
          digits.positional
        else digits.scientific l

end IndicatorDesigner.Shortest
