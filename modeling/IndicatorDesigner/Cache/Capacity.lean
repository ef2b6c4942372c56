import IndicatorDesigner.Value.Basic

/-! How many scripts a cache keeps: any number, taken as one when it is not above one. -/
namespace IndicatorDesigner

/-- A capacity as it is shown and as a count of entries; without a count it is unlimited. -/
structure Capacity where
  shown : Scalar
  slots : Option Nat
  deriving DecidableEq, Repr

namespace Capacity

def one : Capacity := ⟨.int 1, some 1⟩

def ofInt (n : Int) : Capacity := if 1 < n then ⟨.int n, some n.toNat⟩ else one

/-- The capacity of a binary64 number; a fraction of an entry counts as a whole one. -/
def ofFloat (x : Binary64) : Capacity :=
  match x, x.toRat? with
  | _, some r => if 1 < r then ⟨.float x, some r.ceil.toNat⟩ else one
  | .infinite false, none => ⟨.float x, none⟩
  | _, none => one

/-- The capacity that a value gives; none if the value is no number. -/
def ofValue? : Value → Option Capacity
  | .bool _ => some one
  | .int n => some (ofInt n)
  | .float x => some (ofFloat x)
  | _ => none

def mismatchMessage (kind : String) : String :=
  s!"'>' not supported between instances of '{kind}' and 'int'"

/-- Whether there is room for `count` entries. -/
def fits (c : Capacity) (count : Nat) : Bool :=
  match c.slots with
  | some slots => count ≤ slots
  | none => true

end Capacity
end IndicatorDesigner
