/-! Text as code points. Half of a surrogate pair is a code point too, though it is no character. -/
namespace IndicatorDesigner.Text

def points (s : String) : List Nat := s.toList.map Char.toNat

def isSurrogate (point : Nat) : Bool := 0xd800 ≤ point && point < 0xe000

def joined? (high low : Nat) : Option Nat :=
  if 0xd800 ≤ high ∧ high < 0xdc00 ∧ 0xdc00 ≤ low ∧ low < 0xe000 then
    some (0x10000 + (high - 0xd800) * 0x400 + (low - 0xdc00))
  else none

/-- Code units as code points: the two halves of a pair, one right after the other, are one. -/
def joinPairs : List Nat → List Nat
  | [] => []
  | [unit] => [unit]
  | unit :: next :: rest =>
    match joined? unit next with
    | some point => point :: joinPairs rest
    | none => unit :: joinPairs (next :: rest)

def ofPoints? (points : List Nat) : Option String :=
  if points.any isSurrogate then none else some (String.ofList (points.map Char.ofNat))

/-- The text of code points, three U+FFFD standing for half of a pair. -/
def ofPointsLossy (points : List Nat) : String :=
  String.ofList (points.flatMap fun p =>
    if isSurrogate p then ['\uFFFD', '\uFFFD', '\uFFFD'] else [Char.ofNat p])

example : joinPairs [0xd83d, 0xd83d, 0xde00] = [0xd83d, 0x1f600] := by decide

end IndicatorDesigner.Text
