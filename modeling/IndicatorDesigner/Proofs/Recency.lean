import IndicatorDesigner.Cache.Recency
import Mathlib.Data.List.DropRight
import Mathlib.Data.List.Forall2

/-!
Lists of entries in order of use. Storing and touching take the entry of a key out, keep the most
recent of the others, and put the entry at the end.
-/
namespace IndicatorDesigner.Recency

section Lists

variable {α : Type} {p : α → Bool} {n : Nat}

theorem rtake_of_length_le {l : List α} (h : l.length ≤ n) : l.rtake n = l := by
  rw [List.rtake, Nat.sub_eq_zero_of_le h, List.drop_zero]

theorem length_rtake {l : List α} : (l.rtake n).length = min n l.length := by
  rw [List.rtake, List.length_drop]
  omega

theorem rtake_append_of_le (front : List α) {l : List α} (h : n ≤ l.length) :
    (front ++ l).rtake n = l.rtake n := by
  rw [List.rtake, List.rtake, List.length_append, List.drop_append,
    List.drop_eq_nil_of_le (by omega), List.nil_append]
  congr 1
  omega

theorem rtake_rtake {m : Nat} {l : List α} (h : m ≤ n) : (l.rtake n).rtake m = l.rtake m := by
  simp only [List.rtake, List.drop_drop, List.length_drop]
  congr 1
  omega

theorem map_rtake {β : Type} (f : α → β) (l : List α) : (l.rtake n).map f = (l.map f).rtake n := by
  rw [List.rtake, List.rtake, List.map_drop, List.length_map]

theorem length_filter_le_one {l : List α} (h : l.Pairwise fun a b => ¬(p a = true ∧ p b = true)) :
    (l.filter p).length ≤ 1 := by
  induction h with
  | nil => exact Nat.zero_le 1
  | @cons a rest apart _ ih =>
      by_cases ha : p a = true
      · have none : rest.filter p = [] := List.filter_eq_nil_iff.mpr fun b hb hp =>
          apart b hb ⟨ha, hp⟩
        rw [List.filter_cons_of_pos ha, none]
        exact Nat.le_refl 1
      · rw [List.filter_cons_of_neg ha]
        exact ih

/-- If at most one element is taken out of a list, it does not matter whether the list is cut before
that as well. -/
theorem rtake_filter {l : List α} (h : l.Pairwise fun a b => ¬(p a = true ∧ p b = true)) :
    (l.filter (!p ·)).rtake (n - 1) = ((l.rtake n).filter (!p ·)).rtake (n - 1) := by
  rcases Nat.le_total l.length n with short | long
  · rw [rtake_of_length_le short]
  · have parts := List.take_append_drop (l.length - n) l
    have one := length_filter_le_one (h.drop (i := l.length - n))
    have all := List.length_eq_length_filter_add (l := l.rtake n) p
    rw [length_rtake, Nat.min_eq_left long] at all
    -- What is left of the last `n` is long enough to hide all that stands before.
    conv_lhs => rw [← parts, List.filter_append]
    exact rtake_append_of_le _ (by rw [List.rtake] at all; omega)

theorem forall₂_rtake {β : Type} {related : α → β → Prop} {l : List α} {m : List β}
    (h : List.Forall₂ related l m) : List.Forall₂ related (l.rtake n) (m.rtake n) := by
  rw [List.rtake, List.rtake, h.length_eq]
  exact List.forall₂_drop _ h

theorem exists_of_forall₂ {β : Type} {related : α → β → Prop} {l : List α} {m : List β}
    (h : List.Forall₂ related l m) {b : β} (hb : b ∈ m) : ∃ a ∈ l, related a b := by
  induction h with
  | nil => cases hb
  | @cons a first l m hr _ ih =>
      rcases List.mem_cons.mp hb with rfl | hb
      · exact ⟨a, List.mem_cons_self, hr⟩
      · obtain ⟨c, hc, hr⟩ := ih hb
        exact ⟨c, List.mem_cons_of_mem a hc, hr⟩

/-- What corresponds to the same elements corresponds to each other. -/
theorem forall₂_of_common {β γ : Type} {left : α → β → Prop} {right : α → γ → Prop}
    {related : β → γ → Prop} {l : List α} {m : List β} {k : List γ}
    (transfer : ∀ {a b c}, left a b → right a c → related b c) (hm : List.Forall₂ left l m)
    (hk : List.Forall₂ right l k) : List.Forall₂ related m k := by
  induction hm generalizing k with
  | nil =>
      cases hk
      exact .nil
  | cons first _ ih =>
      cases hk with
      | cons other rest => exact .cons (transfer first other) (ih rest)

theorem pairwise_of_forall₂ {β : Type} {related : α → β → Prop} {apart : α → α → Prop}
    {differ : β → β → Prop} {l : List α} {m : List β} (h : List.Forall₂ related l m)
    (transfer : ∀ {a b x y}, related a x → related b y → apart a b → differ x y)
    (hl : l.Pairwise apart) : m.Pairwise differ := by
  induction h with
  | nil => exact .nil
  | @cons a x l m hr rest ih =>
      rw [List.pairwise_cons] at hl
      refine .cons (fun y hy => ?_) (ih hl.2)
      obtain ⟨b, hb, hs⟩ := exists_of_forall₂ rest hy
      exact transfer hr hs (hl.1 b hb)

end Lists

variable {κ ν : Type}

theorem makeRoom_eq_rtake {n : Nat} (h : 0 < n) (entries : List (κ × ν)) :
    makeRoom (fun count => decide (count ≤ n)) entries = entries.rtake (n - 1) := by
  induction entries with
  | nil => rw [makeRoom, List.rtake_nil]
  | cons first rest ih =>
      rw [makeRoom]
      split
      · rename_i fits
        have fits : rest.length + 2 ≤ n := of_decide_eq_true fits
        exact (rtake_of_length_le (by rw [List.length_cons]; omega)).symm
      · rename_i full
        have full : ¬rest.length + 2 ≤ n := fun fits => full (decide_eq_true fits)
        rw [ih, ← rtake_append_of_le [first] (by omega), List.singleton_append]

theorem makeRoom_suffix (fits : Nat → Bool) (entries : List (κ × ν)) :
    makeRoom fits entries <:+ entries := by
  induction entries with
  | nil => exact List.suffix_refl []
  | cons first rest ih =>
      rw [makeRoom]
      split
      · exact List.suffix_refl _
      · exact ih.trans (List.suffix_cons first rest)

variable [BEq κ] {key : κ} {entry : κ × ν} {entries : List (κ × ν)}

theorem find?_eq_find? : find? key entries = entries.find? fun entry => entry.1 == key := by
  induction entries with
  | nil => rfl
  | cons first rest ih =>
      rw [find?, List.find?_cons, ih]
      split <;> simp_all

theorem remove_eq_eraseP : remove key entries = entries.eraseP fun entry => entry.1 == key := by
  induction entries with
  | nil => rfl
  | cons first rest ih =>
      rw [remove, List.eraseP_cons, ih]
      split <;> simp_all

theorem beq_of_find? (h : find? key entries = some entry) : (entry.1 == key) = true := by
  rw [find?_eq_find?] at h
  exact List.find?_some (p := fun entry : κ × ν => entry.1 == key) h

theorem mem_of_find? (h : find? key entries = some entry) : entry ∈ entries := by
  rw [find?_eq_find?] at h
  exact List.mem_of_find?_eq_some h

theorem remove_of_find?_eq_none (h : find? key entries = none) : remove key entries = entries := by
  rw [find?_eq_find?, List.find?_eq_none] at h
  rw [remove_eq_eraseP, List.eraseP_of_forall_not h]

theorem length_remove (h : find? key entries = some entry) :
    (remove key entries).length = entries.length - 1 := by
  rw [remove_eq_eraseP]
  exact List.length_eraseP_of_mem (mem_of_find? h) (beq_of_find? h)

theorem mem_remove_or (h : entry ∈ entries) :
    entry ∈ remove key entries ∨ find? key entries = some entry := by
  induction entries with
  | nil => cases h
  | cons first rest ih =>
      rw [find?, remove]
      split
      · rcases List.mem_cons.mp h with rfl | h
        · exact .inr rfl
        · exact .inl h
      · rcases List.mem_cons.mp h with rfl | h
        · exact .inl List.mem_cons_self
        · exact (ih h).imp_left (List.mem_cons_of_mem first)

/-- The key that an entry has when it is stored again, or else the new key. -/
def keptKey (key : κ) (entries : List (κ × ν)) : κ := ((find? key entries).map (·.1)).getD key

/-- Storing keeps the most recent entries of other keys, one less than there is room for. -/
theorem store_eq {n : Nat} (h : 0 < n) (full : entries.length ≤ n) (value : ν) :
    store (fun count => decide (count ≤ n)) key value entries =
      (remove key entries).rtake (n - 1) ++ [(keptKey key entries, value)] := by
  cases hf : find? key entries with
  | none =>
      simp only [store, keptKey, hf, Option.map_none, Option.getD_none]
      rw [makeRoom_eq_rtake h, remove_of_find?_eq_none hf]
  | some entry =>
      simp only [store, keptKey, hf, Option.map_some, Option.getD_some]
      rw [rtake_of_length_le (by rw [length_remove hf]; omega)]

/-- Touching an entry is storing its value again. -/
theorem touch_eq {n : Nat} (full : entries.length ≤ n) (hf : find? key entries = some entry) :
    touch key entries = (remove key entries).rtake (n - 1) ++ [entry] := by
  simp only [touch, hf]
  rw [rtake_of_length_le (by rw [length_remove hf]; omega)]

theorem mem_of_mem_remove (h : entry ∈ remove key entries) : entry ∈ entries := by
  rw [remove_eq_eraseP] at h
  exact List.mem_of_mem_eraseP h

theorem mem_of_mem_touch (h : entry ∈ touch key entries) : entry ∈ entries := by
  unfold touch at h
  split at h
  · rename_i found hf
    rcases List.mem_append.mp h with h | h
    · exact mem_of_mem_remove h
    · exact List.mem_singleton.mp h ▸ mem_of_find? hf
  · exact h

theorem mem_of_mem_store {fits : Nat → Bool} {value : ν} (hf : find? key entries = none)
    (h : entry ∈ store fits key value entries) : entry ∈ entries ∨ entry = (key, value) := by
  simp only [store, hf] at h
  refine (List.mem_append.mp h).imp (fun h => ?_) List.mem_singleton.mp
  exact (makeRoom_suffix fits entries).subset h

theorem mem_touch (hm : entry ∈ entries) : entry ∈ touch key entries := by
  rw [touch]
  cases hf : find? key entries with
  | none => exact hm
  | some found =>
      refine List.mem_append.mpr ((mem_remove_or hm).imp_right fun this => ?_)
      rw [hf, Option.some.injEq] at this
      exact List.mem_singleton.mpr this.symm

/-- Every entry outlasts a store under its key, except the first one when there is no room. -/
theorem key_mem_store {n : Nat} (h : 0 < n) (full : entries.length ≤ n) (value : ν)
    (hm : entry ∈ entries) (room : entries.length < n ∨ entry ∈ entries.tail) :
    ∃ kept ∈ store (fun count => decide (count ≤ n)) key value entries, kept.1 = entry.1 := by
  rw [store_eq h full value]
  have place : entry ∈ remove key entries ∨ _ := mem_remove_or hm
  rcases place with other | this
  · refine ⟨entry, List.mem_append_left _ ?_, rfl⟩
    cases hf : find? key entries with
    | some found => rwa [rtake_of_length_le (by rw [length_remove hf]; omega)]
    | none =>
        rw [remove_of_find?_eq_none hf]
        by_cases short : entries.length < n
        · rwa [rtake_of_length_le (by omega)]
        · rw [List.rtake, show entries.length - (n - 1) = 1 by omega, List.drop_one]
          exact room.resolve_left short
  · refine ⟨_, List.mem_append_right _ (List.mem_singleton_self _), ?_⟩
    rw [keptKey, this]
    rfl

/-- Lists that correspond still do so when the entry of a key is removed and what corresponds to it
is left out. -/
theorem forall₂_remove {τ : Type} {related : τ → κ × ν → Prop} {p : τ → Bool} {others : List τ}
    (agree : ∀ other entry, related other entry → (entry.1 == key) = p other)
    (once : others.Pairwise fun a b => ¬(p a = true ∧ p b = true))
    (h : List.Forall₂ related others entries) :
    List.Forall₂ related (others.filter (!p ·)) (remove key entries) := by
  induction h with
  | nil => exact .nil
  | @cons other entry others entries first rest ih =>
      rw [List.pairwise_cons] at once
      by_cases hp : p other = true
      · have none : others.filter (!p ·) = others := List.filter_eq_self.mpr fun b hb => by
          have := once.1 b hb
          simp_all
        rw [remove, if_pos ((agree _ _ first).trans hp), List.filter_cons_of_neg (by simp [hp]),
          none]
        exact rest
      · rw [remove, if_neg (by rw [agree _ _ first]; exact hp),
          List.filter_cons_of_pos (by simpa using hp)]
        exact .cons first (ih once.2)

end IndicatorDesigner.Recency
