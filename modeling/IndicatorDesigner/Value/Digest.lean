import IndicatorDesigner.Value.Basic

/-!
Short digests of scalars, equal for equal scalars. A number is digested by its residue modulo a
Mersenne prime, so distinct numbers can share one.
-/
namespace IndicatorDesigner

/-- The digest of a scalar. A NaN has a fresh one each time, which equals no other. -/
inductive Digest where
  | number (residue : Int)
  | word (s : Chars)
  | null
  | fresh
  deriving DecidableEq, Repr

namespace Digest

def modulus : Nat := 2305843009213693951

/-- The residue of a fraction whose denominator is a power of two. Minus one is not a residue. -/
def residue (r : Rat) : Int :=
  let half := (61 - r.den.log2 % 61) % 61
  let size : Int := (r.num.natAbs * twoTo half % modulus : Nat)
  let signed := if r.num < 0 then -size else size
  if signed = -1 then -2 else signed

def ofAmount : Amount → Digest
  | .exact r => .number (residue r)
  | .infinite negative => .number (if negative then -314159 else 314159)

/-- The digest of a scalar. The empty text shares the one of zero. -/
def ofScalar : Scalar → Digest
  | .null => .null
  | .text s => if s = .text "" then .number 0 else .word s
  | s => (s.amount?.map ofAmount).getD .fresh

def same : Digest → Digest → Bool
  | .fresh, _ => false
  | d, e => d == e

end Digest
end IndicatorDesigner
