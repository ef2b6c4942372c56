import IndicatorDesigner.Numeric.Numeral
import IndicatorDesigner.Text.Hexadecimal
import IndicatorDesigner.Value.Basic

/-!
Values from JSON text. Besides the standard, `NaN`, `Infinity` and `-Infinity` are numbers, a number
without point and exponent is a whole number of any size up to `Numeral.maxDigits` digits, and of
two entries with one key the later value stands in the earlier place.
-/
namespace IndicatorDesigner.Json

open Numeral (leadingDigits wholePart)

/-- What is wrong at a place of a text that is not JSON. -/
inductive Reason where
  | value
  | propertyName
  | colon
  | comma
  | openString
  | controlCharacter
  | escape
  | unicodeEscape
  | extraData
  | byteOrderMark
  deriving DecidableEq, Repr

def Reason.message : Reason → String
  | .value => "Expecting value"
  | .propertyName => "Expecting property name enclosed in double quotes"
  | .colon => "Expecting ':' delimiter"
  | .comma => "Expecting ',' delimiter"
  | .openString => "Unterminated string starting at"
  | .controlCharacter => "Invalid control character at"
  | .escape => "Invalid \\escape"
  | .unicodeEscape => "Invalid \\uXXXX escape"
  | .extraData => "Extra data"
  | .byteOrderMark => "Unexpected UTF-8 BOM (decode using utf-8-sig)"

/-- Why a text gives no value. The last two are limits of the reader, not faults of the text. -/
inductive Fault where
  | malformed (reason : Reason) (position : Nat)
  | tooLong (digits : Nat)
  | tooDeep (container : String)
  deriving DecidableEq, Repr

/-- What is left of a text, in code points, and how many came before. -/
structure Cursor where
  rest : List Nat
  position : Nat

namespace Cursor

def fail {α : Type} (c : Cursor) (reason : Reason) : Except Fault α :=
  .error (.malformed reason c.position)

def advance (c : Cursor) (n : Nat) : Cursor := ⟨c.rest.drop n, c.position + n⟩

/-- The next character. Half of a surrogate pair shows as a null character: neither means anything
outside a string. -/
def next? (c : Cursor) : Option Char := c.rest.head?.map Char.ofNat

def skipBlanks (c : Cursor) : Cursor :=
  c.advance (c.rest.takeWhile fun x => [0x9, 0xa, 0xd, 0x20].contains x).length

end Cursor

def escaped? : Char → Option Char
  | '"' => some '"'
  | '\\' => some '\\'
  | '/' => some '/'
  | 'b' => some '\x08'
  | 'f' => some '\x0c'
  | 'n' => some '\n'
  | 'r' => some '\r'
  | 't' => some '\t'
  | _ => none

/-- Where in a string the reader stands: in plain text, after a backslash, or in the hexadecimal
digits of an escape whose `u` was at `start`. The flag tells whether an escape came right before. -/
inductive StringState where
  | text (escaped : Bool)
  | backslash (escaped : Bool)
  | hex (escaped : Bool) (left value start : Nat)

/-- One more code point before those read, which come last first. Halves of a surrogate pair are one
if both are escaped. -/
def pushEscaped (escaped : Bool) (point : Nat) : List Nat → List Nat
  | [] => [point]
  | last :: points =>
    match escaped, Text.joined? last point with
    | true, some whole => whole :: points
    | _, _ => point :: last :: points

/-- Reads a string up to its closing quote. The points read come last first; `opening` is the place
of the opening quote, `position` that of the next character. -/
def readString (opening : Nat) :
    StringState → List Nat → Nat → List Nat → Except Fault (Chars × Cursor)
  | _, _, _, [] => .error (.malformed .openString opening)
  | .text escaped, points, position, p :: rest =>
    if p = '"'.toNat then .ok (Chars.ofPoints points.reverse, ⟨rest, position + 1⟩)
    else if p = '\\'.toNat then readString opening (.backslash escaped) points (position + 1) rest
    else if p < 0x20 then .error (.malformed .controlCharacter position)
    else readString opening (.text false) (p :: points) (position + 1) rest
  | .backslash escaped, points, position, p :: rest =>
    if p = 'u'.toNat then
      if (rest.drop 4).isEmpty then .error (.malformed .unicodeEscape position)
      else readString opening (.hex escaped 3 0 position) points (position + 1) rest
    else
      match escaped? (Char.ofNat p) with
      | some x => readString opening (.text false) (x.toNat :: points) (position + 1) rest
      | none => .error (.malformed .escape (position - 1))
  | .hex escaped left value start, points, position, p :: rest =>
    match Text.hexValue? (Char.ofNat p) with
    | none => .error (.malformed .unicodeEscape start)
    | some d =>
      match left with
      | 0 =>
        readString opening (.text true) (pushEscaped escaped (value * 16 + d) points)
          (position + 1) rest
      | left + 1 =>
        readString opening (.hex escaped left (value * 16 + d) start) points (position + 1) rest

def fractionPart : List Char → List Char
  | '.' :: rest => if leadingDigits rest = [] then [] else '.' :: leadingDigits rest
  | _ => []

def exponentPart : List Char → List Char
  | mark :: rest =>
    if mark = 'e' ∨ mark = 'E' then
      let sign := rest.takeWhile fun c => c == '-' || c == '+'
      let digits := leadingDigits (rest.drop sign.length)
      if digits = [] ∨ 1 < sign.length then [] else mark :: sign ++ digits
    else []
  | [] => []

def numberPoints : List Nat := Text.points "+-.0123456789eE"

/-- Reads a number; a minus sign alone is none. -/
def readNumber (c : Cursor) : Except Fault (Value × Cursor) :=
  let run := (c.rest.takeWhile numberPoints.contains).map Char.ofNat
  let minus := match run with
    | '-' :: _ => ['-']
    | _ => []
  let afterSign := run.drop minus.length
  let whole := wholePart afterSign
  if whole = [] then c.fail .value
  else
    let fraction := fractionPart (afterSign.drop whole.length)
    let exponent := exponentPart (afterSign.drop (whole.length + fraction.length))
    let all := minus ++ whole ++ fraction ++ exponent
    let next := c.advance all.length
    if fraction = [] ∧ exponent = [] then
      if Numeral.maxDigits < whole.length then .error (.tooLong whole.length)
      else .ok (.int (Numeral.signed (minus ≠ []) (Numeral.digitsValue whole)), next)
    else
      match Numeral.readBinary64? all with
      | some x => .ok (.float x, next)
      | none => c.fail .value

def words : List (String × Value) :=
  [("null", .null), ("true", .bool true), ("false", .bool false), ("NaN", .float .nan),
   ("Infinity", .float (.infinite false)), ("-Infinity", .float (.infinite true))]

def readAtom (c : Cursor) : Except Fault (Value × Cursor) :=
  match words.find? fun (word, _) => (Text.points word).isPrefixOf c.rest with
  | some (word, v) => .ok (v, c.advance word.length)
  | none => readNumber c

mutual

/-- Reads a value. `depth` is how many more containers may be opened, and each step uses fuel. -/
def readValue : Nat → Nat → Cursor → Except Fault (Value × Cursor)
  | 0, _, c => c.fail .value
  | fuel + 1, depth, c =>
    match c.next? with
    | some '"' => do
      let (s, next) ← readString c.position (.text false) [] (c.position + 1) (c.rest.drop 1)
      .ok (.chars s, next)
    | some '[' =>
      match depth with
      | 0 => .error (.tooDeep "array")
      | depth + 1 =>
        let inner := (c.advance 1).skipBlanks
        match inner.next? with
        | some ']' => .ok (.list [], inner.advance 1)
        | _ => do
          let (items, next) ← readItems fuel depth inner
          .ok (.list items, next)
    | some '{' =>
      match depth with
      | 0 => .error (.tooDeep "object")
      | depth + 1 =>
        let inner := (c.advance 1).skipBlanks
        match inner.next? with
        | some '}' => .ok (.object [], inner.advance 1)
        | _ => do
          let (entries, next) ← readEntries fuel depth [] inner
          .ok (.object entries, next)
    | _ => readAtom c

/-- Reads the items of a list, at least one, and the closing bracket. -/
def readItems : Nat → Nat → Cursor → Except Fault (List Value × Cursor)
  | 0, _, c => c.fail .value
  | fuel + 1, depth, c => do
    let (item, next) ← readValue fuel depth c
    let next := next.skipBlanks
    match next.next? with
    | some ']' => .ok ([item], next.advance 1)
    | some ',' => do
      let (items, last) ← readItems fuel depth (next.advance 1).skipBlanks
      .ok (item :: items, last)
    | _ => next.fail .comma

/-- Reads the entries of an object, at least one, and the closing brace. -/
def readEntries : Nat → Nat → List (Chars × Value) → Cursor →
    Except Fault (List (Chars × Value) × Cursor)
  | 0, _, _, c => c.fail .value
  | fuel + 1, depth, entries, c =>
    match c.next? with
    | some '"' => do
      let (key, next) ← readString c.position (.text false) [] (c.position + 1) (c.rest.drop 1)
      let next := next.skipBlanks
      match next.next? with
      | some ':' => do
        let (v, next) ← readValue fuel depth (next.advance 1).skipBlanks
        let next := next.skipBlanks
        let entries := Value.put key v entries
        match next.next? with
        | some '}' => .ok (entries, next.advance 1)
        | some ',' => readEntries fuel depth entries (next.advance 1).skipBlanks
        | _ => next.fail .comma
      | _ => next.fail .colon
    | _ => c.fail .propertyName

end

/-- How many containers may stand inside each other. The limit is that of the call stack of the
service, measured for both of its readers. -/
def maxDepth : Nat := 970

/-- The value of a JSON text given in code points, with at most `depth` nested containers. -/
def readPoints (depth : Nat) (points : List Nat) : Except Fault Value := do
  let (v, next) ← readValue (2 * points.length + 2) depth (Cursor.skipBlanks ⟨points, 0⟩)
  let next := next.skipBlanks
  if next.rest = [] then .ok v else next.fail .extraData

/-- The value of a JSON text, which has no byte order mark. -/
def read (s : String) : Except Fault Value :=
  if s.toList.head? = some '\uFEFF' then .error (.malformed .byteOrderMark 0)
  else readPoints maxDepth (Text.points s)

def Fault.message : Fault → String
  | .malformed reason _ => reason.message
  | .tooLong digits => Numeral.tooLongMessage digits
  | .tooDeep container =>
    s!"maximum recursion depth exceeded while decoding a JSON {container} from a unicode string"

end IndicatorDesigner.Json
