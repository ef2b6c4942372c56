/-! Powers of the two bases in which numbers are held and written. -/
namespace IndicatorDesigner

/-- The power of two with exponent `n`. -/
def twoTo (n : Nat) : Nat := Nat.pow 2 n

/-- The power of ten with exponent `n`. -/
def tenTo (n : Nat) : Nat := Nat.pow 10 n

/-- How many decimal digits `n` has; zero has one. -/
def digitCount (n : Nat) : Nat := (toString n).length

theorem twoTo_succ (n : Nat) : twoTo (n + 1) = twoTo n * 2 := rfl

theorem twoTo_pos (n : Nat) : 0 < twoTo n := by
  induction n with
  | zero => decide
  | succ n ih => rw [twoTo_succ]; omega

end IndicatorDesigner
