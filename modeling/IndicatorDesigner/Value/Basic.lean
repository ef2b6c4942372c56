import IndicatorDesigner.Numeric.Binary64
import IndicatorDesigner.Text.CodePoint

/-!
Settings as they arrive: values of any shape. Numbers compare by exact value, whatever their kind,
and the order of the entries of an object is kept but does not count when objects are compared.
-/
namespace IndicatorDesigner

/-- Characters as they arrive: a text, or code points that are none because half of a surrogate pair
stands alone among them. -/
inductive Chars where
  | text (s : String)
  | broken (points : List Nat)
  deriving DecidableEq, Repr, Inhabited

instance : Coe String Chars := ⟨.text⟩

namespace Chars

def ofPoints (points : List Nat) : Chars :=
  match Text.ofPoints? points with
  | some s => .text s
  | none => .broken points

def points : Chars → List Nat
  | .text s => Text.points s
  | .broken points => points

def isText : Chars → Bool
  | .text _ => true
  | .broken _ => false

def shown : Chars → String
  | .text s => s
  | .broken points => Text.ofPointsLossy points

end Chars

/-- A value without parts. -/
inductive Scalar where
  | null
  | bool (b : Bool)
  | int (n : Int)
  | float (x : Binary64)
  | text (s : Chars)
  deriving DecidableEq, Repr, Inhabited

/-- A value: a scalar, a list or an object with its entries in order. -/
inductive Value where
  | scalar (s : Scalar)
  | list (items : List Value)
  | object (entries : List (Chars × Value))
  deriving Repr, Inhabited

/-- A number on the extended line. -/
inductive Amount where
  | exact (r : Rat)
  | infinite (negative : Bool)
  deriving DecidableEq, Repr

namespace Scalar

/-- The numeric value, if there is one. A flag counts as zero or one, and NaN has none. -/
def amount? : Scalar → Option Amount
  | .null => none
  | .bool b => some (.exact (if b then 1 else 0))
  | .int n => some (.exact n)
  | .float (.infinite negative) => some (.infinite negative)
  | .float x => x.toRat?.map .exact
  | .text _ => none

/-- Whether two scalars are equal: numbers by exact value, NaN never, as it is for settings that are
built anew for each use. -/
def same : Scalar → Scalar → Bool
  | .null, .null => true
  | .text s, .text t => s == t
  | a, b =>
    match a.amount?, b.amount? with
    | some x, some y => x == y
    | _, _ => false

def truthy : Scalar → Bool
  | .null => false
  | .bool b => b
  | .int n => n != 0
  | .float (.finite _ mantissa _ _) => mantissa != 0
  | .float _ => true
  | .text s => s != .text ""

def kind : Scalar → String
  | .null => "NoneType"
  | .bool _ => "bool"
  | .int _ => "int"
  | .float _ => "float"
  | .text _ => "str"

end Scalar

namespace Value

@[match_pattern] abbrev null : Value := .scalar .null
@[match_pattern] abbrev bool (b : Bool) : Value := .scalar (.bool b)
@[match_pattern] abbrev int (n : Int) : Value := .scalar (.int n)
@[match_pattern] abbrev float (x : Binary64) : Value := .scalar (.float x)
@[match_pattern] abbrev text (s : String) : Value := .scalar (.text (.text s))
@[match_pattern] abbrev broken (points : List Nat) : Value := .scalar (.text (.broken points))
@[match_pattern] abbrev chars (s : Chars) : Value := .scalar (.text s)

def find? (key : Chars) : List (Chars × Value) → Option Value
  | [] => none
  | (k, v) :: rest => if k == key then some v else find? key rest

/-- The entries with one of them set: in its place if the key is there, else at the end. -/
def put (key : Chars) (value : Value) : List (Chars × Value) → List (Chars × Value)
  | [] => [(key, value)]
  | (k, v) :: rest => if k == key then (k, value) :: rest else (k, v) :: put key value rest

/-- Whether a value counts as true; lists and objects do unless they are empty. -/
def truthy : Value → Bool
  | .scalar s => s.truthy
  | .list items => !items.isEmpty
  | .object entries => !entries.isEmpty

def kind : Value → String
  | .scalar s => s.kind
  | .list _ => "list"
  | .object _ => "dict"

mutual

def same : Value → Value → Bool
  | .scalar a, .scalar b => a.same b
  | .list a, .list b => sameItems a b
  | .object a, .object b => a.length == b.length && sameEntries a b
  | _, _ => false
termination_by structural v => v

def sameItems : List Value → List Value → Bool
  | [], [] => true
  | a :: as, b :: bs => same a b && sameItems as bs
  | _, _ => false
termination_by structural vs => vs

/-- Whether each entry of the first list has an equal one in the second. -/
def sameEntries : List (Chars × Value) → List (Chars × Value) → Bool
  | [], _ => true
  | (key, a) :: rest, entries =>
    (match find? key entries with
      | some b => same a b
      | none => false) && sameEntries rest entries
termination_by structural es => es

end

end Value
end IndicatorDesigner
