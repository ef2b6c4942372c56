import IndicatorDesigner.Json.Reader
import IndicatorDesigner.Text.Utf8

/-!
JSON from the bytes of a message. A leading UTF-8 mark is dropped; null bytes near the start tell
that the text is in units of two or four bytes.
-/
namespace IndicatorDesigner.Json

/-- Units of two bytes, in either order; none if a byte is left over. -/
def unitsOf2 (bigEndian : Bool) : List Nat → Option (List Nat)
  | [] => some []
  | a :: b :: rest =>
    (unitsOf2 bigEndian rest).map ((if bigEndian then a * 256 + b else b * 256 + a) :: ·)
  | [_] => none

/-- Units of four bytes, in either order, each a code point; none if bytes are left over. -/
def unitsOf4 (bigEndian : Bool) : List Nat → Option (List Nat)
  | [] => some []
  | a :: b :: c :: d :: rest =>
    let unit := if bigEndian then ((a * 256 + b) * 256 + c) * 256 + d
      else ((d * 256 + c) * 256 + b) * 256 + a
    if unit < 0x110000 then (unitsOf4 bigEndian rest).map (unit :: ·) else none
  | _ => none

/-- The code points of a message body, if its bytes can be decoded. -/
def decodeBody? (body : String) : Option (List Nat) :=
  match Text.utf8Bytes body with
  | 0xef :: 0xbb :: 0xbf :: _ => some ((Text.points body).drop 1)
  | 0 :: 0 :: c :: d :: rest => unitsOf4 true (0 :: 0 :: c :: d :: rest)
  | 0 :: b :: c :: d :: rest => (unitsOf2 true (0 :: b :: c :: d :: rest)).map Text.joinPairs
  | a :: 0 :: 0 :: 0 :: rest => unitsOf4 false (a :: 0 :: 0 :: 0 :: rest)
  | a :: 0 :: c :: d :: rest => (unitsOf2 false (a :: 0 :: c :: d :: rest)).map Text.joinPairs
  | [0, b] => (unitsOf2 true [0, b]).map Text.joinPairs
  | [a, 0] => (unitsOf2 false [a, 0]).map Text.joinPairs
  | _ => some (Text.points body)

end IndicatorDesigner.Json
