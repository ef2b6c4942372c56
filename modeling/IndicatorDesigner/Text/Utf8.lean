/-!
Text as bytes and bytes as text. What is not UTF-8 is replaced, one U+FFFD for each longest part
that could have begun a character.
-/
namespace IndicatorDesigner.Text

def utf8Bytes (s : String) : List Nat := s.toUTF8.toList.map UInt8.toNat

/-- How many bytes a character takes that starts with this byte, and which second bytes may
follow. -/
def leadByte (b : Nat) : Option (Nat × Nat × Nat) :=
  if 0xc2 ≤ b ∧ b ≤ 0xdf then some (2, 0x80, 0xbf)
  else if b = 0xe0 then some (3, 0xa0, 0xbf)
  else if b = 0xed then some (3, 0x80, 0x9f)
  else if 0xe1 ≤ b ∧ b ≤ 0xef then some (3, 0x80, 0xbf)
  else if b = 0xf0 then some (4, 0x90, 0xbf)
  else if 0xf1 ≤ b ∧ b ≤ 0xf3 then some (4, 0x80, 0xbf)
  else if b = 0xf4 then some (4, 0x80, 0x8f)
  else none

/-- Reads continuation bytes, at most `count`, the first of them between `low` and `high`. Gives the
code point, none when a byte was missing, and the bytes left. -/
def continuation : Nat → Nat → Nat → Nat → List Nat → Option Nat × List Nat
  | 0, _, _, point, rest => (some point, rest)
  | _ + 1, _, _, _, [] => (none, [])
  | count + 1, low, high, point, b :: rest =>
    if low ≤ b ∧ b ≤ high then continuation count 0x80 0xbf (point * 64 + b % 64) rest
    else (none, b :: rest)

def leadBits (size b : Nat) : Nat :=
  if size = 2 then b % 32 else if size = 3 then b % 16 else b % 8

/-- Decodes bytes; each step takes at least one, so as much fuel as there are bytes is enough. -/
def decodeUtf8Aux : Nat → List Nat → List Char
  | 0, _ => []
  | _, [] => []
  | fuel + 1, b :: rest =>
    if b < 0x80 then Char.ofNat b :: decodeUtf8Aux fuel rest
    else
      match leadByte b with
      | none => '\uFFFD' :: decodeUtf8Aux fuel rest
      | some (size, low, high) =>
        match continuation (size - 1) low high (leadBits size b) rest with
        | (some point, left) => Char.ofNat point :: decodeUtf8Aux fuel left
        | (none, left) => '\uFFFD' :: decodeUtf8Aux fuel left

def decodeUtf8Lossy (bytes : List Nat) : String := String.ofList (decodeUtf8Aux bytes.length bytes)

example : decodeUtf8Lossy [0x61, 0xe2, 0x82, 0xac, 0xff, 0xe2, 0x82] = "a€\uFFFD\uFFFD" := by decide

end IndicatorDesigner.Text
