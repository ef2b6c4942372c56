import IndicatorDesigner.Numeric.Power

/-!
Numbers of the IEEE 754 binary64 format. A finite number is held exactly, as a sign, a mantissa
and a power of two in canonical form, so two equal values differ at most in the sign of zero.
-/
namespace IndicatorDesigner

/-- The mantissa fills 53 bits, or the exponent is the least one. -/
abbrev Binary64.Canonical (mantissa : Nat) (exponent : Int) : Prop :=
  mantissa < 9007199254740992 ∧ -1074 ≤ exponent ∧ exponent ≤ 971 ∧
    (4503599627370496 ≤ mantissa ∨ exponent = -1074)

/-- A number of the binary64 format; every NaN is the same one. -/
inductive Binary64 where
  | finite (negative : Bool) (mantissa : Nat) (exponent : Int)
      (canonical : Binary64.Canonical mantissa exponent)
  | infinite (negative : Bool)
  | nan
  deriving DecidableEq, Repr

namespace Binary64

def zero (negative : Bool) : Binary64 := .finite negative 0 (-1074) (by decide)

instance : Inhabited Binary64 := ⟨zero false⟩

/-- The finite number `±mantissa · 2^exponent`, or an infinity when that is out of range. -/
def ofParts (negative : Bool) (mantissa : Nat) (exponent : Int) : Binary64 :=
  if h : Canonical mantissa exponent then .finite negative mantissa exponent h
  else .infinite negative

/-- The quotient to the nearest whole number, a half going to the even neighbour. -/
def roundHalfEven (num den : Nat) : Nat :=
  let quotient := num / den
  let rest := num % den
  if 2 * rest < den ∨ 2 * rest = den ∧ quotient % 2 = 0 then quotient else quotient + 1

/-- The exponent of the greatest power of two that is at most `num / den`. -/
def floorLog2 (num den : Nat) : Int :=
  let guess : Int := (num.log2 : Int) - (den.log2 : Int)
  if den * twoTo guess.toNat ≤ num * twoTo (-guess).toNat then guess else guess - 1

/-- The number nearest to `±num / den`, a tie going to the even mantissa. -/
def nearest (negative : Bool) (num den : Nat) : Binary64 :=
  if num = 0 then zero negative
  else
    let exponent : Int := max (floorLog2 num den - 52) (-1074)
    let mantissa := roundHalfEven (num * twoTo (-exponent).toNat) (den * twoTo exponent.toNat)
    if mantissa = 9007199254740992 then ofParts negative 4503599627370496 (exponent + 1)
    else ofParts negative mantissa exponent

/-- The number nearest to `±digits · 10^exponent`. Sizes far outside the format are settled
without computing the power. -/
def ofDecimal (negative : Bool) (digits : Nat) (exponent : Int) : Binary64 :=
  if digits = 0 then zero negative
  else if 0 ≤ exponent then
    if digits.log2 + 3 * exponent.toNat > 1100 then .infinite negative
    else nearest negative (digits * tenTo exponent.toNat) 1
  else if digits.log2 + 1200 < 3 * (-exponent).toNat then zero negative
  else nearest negative digits (tenTo (-exponent).toNat)

instance : OfScientific Binary64 where
  ofScientific digits down exponent :=
    ofDecimal false digits (if down then -(exponent : Int) else exponent)

def ofInt (n : Int) : Binary64 := nearest (decide (n < 0)) n.natAbs 1

/-- The size `mantissa · 2^exponent` as an exact rational number. -/
def magnitude (mantissa : Nat) (exponent : Int) : Rat :=
  mkRat (mantissa * twoTo exponent.toNat) (twoTo (-exponent).toNat)

def toRat? : Binary64 → Option Rat
  | .finite negative m e _ => some (if negative then -magnitude m e else magnitude m e)
  | .infinite _ => none
  | .nan => none

def isFinite : Binary64 → Bool
  | .finite _ _ _ _ => true
  | _ => false

def neg : Binary64 → Binary64
  | .finite negative m e h => .finite (!negative) m e h
  | .infinite negative => .infinite (!negative)
  | .nan => .nan

instance : Neg Binary64 := ⟨neg⟩

/-- The order of the extended number line, false whenever NaN takes part. -/
def le : Binary64 → Binary64 → Bool
  | .nan, _ => false
  | _, .nan => false
  | .infinite true, _ => true
  | _, .infinite false => true
  | .infinite false, _ => false
  | _, .infinite true => false
  | .finite nx mx ex _, .finite ny my ey _ =>
    decide ((if nx then -magnitude mx ex else magnitude mx ex)
      ≤ (if ny then -magnitude my ey else magnitude my ey))

end Binary64
end IndicatorDesigner
