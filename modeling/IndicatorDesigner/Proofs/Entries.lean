import IndicatorDesigner.Value.Basic
import Mathlib.Data.List.Nodup

/-!
What is found under a key. Where no key stands twice, it is the entry of the key, and the order of
the entries does not matter.
-/
namespace IndicatorDesigner.Value

/-- No key stands twice, as in every object that was read. -/
def Distinct (entries : List (Chars × Value)) : Prop := (entries.map Prod.fst).Nodup

instance (entries : List (Chars × Value)) : Decidable (Distinct entries) :=
  inferInstanceAs (Decidable (List.Nodup _))

variable {entries other : List (Chars × Value)} {key : Chars} {v : Value}

theorem mem_of_find? (h : find? key entries = some v) : (key, v) ∈ entries := by
  induction entries with
  | nil => cases h
  | cons entry rest ih =>
      rw [find?] at h
      split at h
      · rename_i same
        rw [← eq_of_beq same, ← Option.some.inj h]
        exact List.mem_cons_self
      · exact List.mem_cons_of_mem entry (ih h)

theorem Distinct.find?_eq_some_iff (once : Distinct entries) :
    find? key entries = some v ↔ (key, v) ∈ entries := by
  refine ⟨mem_of_find?, ?_⟩
  intro member
  induction entries with
  | nil => cases member
  | cons entry rest ih =>
      obtain ⟨fresh, once⟩ := List.nodup_cons.mp once
      rcases List.mem_cons.mp member with rfl | member
      · simp [find?]
      · have other : entry.1 ≠ key := fun same =>
          fresh (same ▸ List.mem_map_of_mem (f := Prod.fst) member)
        simpa [find?, other] using ih once member

/-- The order of distinct keys does not matter to what is found under one. -/
theorem Distinct.find?_perm (once : Distinct entries) (order : entries.Perm other) (key : Chars) :
    find? key entries = find? key other := by
  have others : Distinct other := (order.map Prod.fst).nodup once
  refine Option.ext fun v => ?_
  rw [once.find?_eq_some_iff, others.find?_eq_some_iff, order.mem_iff]

end IndicatorDesigner.Value
