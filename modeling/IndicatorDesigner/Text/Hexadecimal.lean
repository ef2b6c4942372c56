/-! Numbers in hexadecimal digits. -/
namespace IndicatorDesigner.Text

/-- The `width` last hexadecimal digits of `n`, in lower case. -/
def hexDigits (width n : Nat) : List Char :=
  (List.range width).reverse.map fun k => Nat.digitChar (n / Nat.pow 16 k % 16)

def hexValue? (c : Char) : Option Nat :=
  if '0' ≤ c ∧ c ≤ '9' then some (c.toNat - '0'.toNat)
  else if 'a' ≤ c ∧ c ≤ 'f' then some (c.toNat - 'a'.toNat + 10)
  else if 'A' ≤ c ∧ c ≤ 'F' then some (c.toNat - 'A'.toNat + 10)
  else none

example : hexDigits 4 0xe9 = ['0', '0', 'e', '9'] ∧ hexValue? 'B' = some 11 := by decide

end IndicatorDesigner.Text
