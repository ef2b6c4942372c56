/-!
A list of entries ordered by use, the least recently used one first. An entry that is stored again
keeps the key it was first stored with. Of several entries with equal keys the first one is meant.
-/
namespace IndicatorDesigner.Recency

variable {κ ν : Type} [BEq κ]

def find? (key : κ) : List (κ × ν) → Option (κ × ν)
  | [] => none
  | entry :: rest => if entry.1 == key then some entry else find? key rest

def remove (key : κ) : List (κ × ν) → List (κ × ν)
  | [] => []
  | entry :: rest => if entry.1 == key then rest else entry :: remove key rest

/-- The entry of a key moved to the end, where the most recent ones are. -/
def touch (key : κ) (entries : List (κ × ν)) : List (κ × ν) :=
  match find? key entries with
  | some entry => remove key entries ++ [entry]
  | none => entries

/-- Drops entries from the front until one more would fit. -/
def makeRoom (fits : Nat → Bool) : List (κ × ν) → List (κ × ν)
  | [] => []
  | entry :: rest => if fits (rest.length + 2) then entry :: rest else makeRoom fits rest

def store (fits : Nat → Bool) (key : κ) (value : ν) (entries : List (κ × ν)) : List (κ × ν) :=
  match find? key entries with
  | some (kept, _) => remove key entries ++ [(kept, value)]
  | none => makeRoom fits entries ++ [(key, value)]

end IndicatorDesigner.Recency
