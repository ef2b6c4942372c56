import IndicatorDesigner.Proofs.Recency
import IndicatorDesigner.Proofs.Uses

/-!
A cache against its history. What it holds after any run is told by the touches since it was last
cleared: the most recent ones of distinct keys, as many as there is room for, each with the value
that was stored last for its key.
-/
namespace IndicatorDesigner.Cache

/-- A use of a key that makes it the most recent one, and what is stored by it, if anything is. -/
structure Touch where
  key : Config.Key
  stored : Option (Option String)

/-- The touch that a use of the cache is: a script that was looked up with success, a script that
was stored, or one that was found or made. -/
def touch? (generate : Generator) (c : Cache) (u : Use) : Option Touch :=
  match u, c.use generate u with
  | .get config, (.script (some _), _) => some ⟨config.key, none⟩
  | .set config script, (.done, _) => some ⟨config.key, some script⟩
  | .getOrGenerate config, (.script (some script), after) =>
    some ⟨config.key, if after.misses = c.misses then none else some (some script)⟩
  | _, _ => none

/-- The cache after a run, each use with the generator that is given to it. -/
def run : Cache → List (Generator × Use) → Cache
  | c, [] => c
  | c, (generate, u) :: rest => run (c.use generate u).2 rest

/-- The touches after one more use. -/
def extend (history : List Touch) (c : Cache) : Generator × Use → List Touch
  | (_, .clear) => []
  | (generate, u) => history ++ (c.touch? generate u).toList

/-- The touches since the last time a run cleared the cache, oldest first. -/
def touches (history : List Touch) : Cache → List (Generator × Use) → List Touch
  | _, [] => history
  | c, step :: rest => touches (extend history c step) (c.use step.1 step.2).2 rest

/-- The last touch of each key, in their order. -/
def latest : List Touch → List Touch
  | [] => []
  | touch :: later =>
    if later.any (·.key == touch.key) then latest later else touch :: latest later

/-- The value that was stored last for a key. -/
def storedFor (history : List Touch) (key : Config.Key) : Option (Option String) :=
  history.reverse.findSome? fun touch => if touch.key == key then touch.stored else none

/-- The value that was stored last for the key of a touch. A key with a NaN is another one each time
that it is stored. -/
def valueOf (history : List Touch) (touch : Touch) : Option (Option String) :=
  if touch.key == touch.key then storedFor history touch.key else touch.stored

theorem latest_concat (history : List Touch) (touch : Touch) :
    latest (history ++ [touch]) = (latest history).filter (!touch.key == ·.key) ++ [touch] := by
  induction history with
  | nil => rfl
  | cons first later ih =>
      rw [List.cons_append, latest, latest, List.any_append, ih]
      cases hl : later.any (·.key == first.key) with
      | true => simp
      | false =>
          cases ht : touch.key == first.key with
          | true => simp [ht]
          | false => simp [ht]

theorem mem_of_mem_latest {history : List Touch} {touch : Touch} (h : touch ∈ latest history) :
    touch ∈ history := by
  induction history with
  | nil => cases h
  | cons first later ih =>
      rw [latest] at h
      split at h
      · exact List.mem_cons_of_mem first (ih h)
      · rcases List.mem_cons.mp h with rfl | h
        · exact List.mem_cons_self
        · exact List.mem_cons_of_mem first (ih h)

theorem pairwise_latest (history : List Touch) :
    (latest history).Pairwise fun a b => ¬(b.key == a.key) = true := by
  induction history with
  | nil => exact .nil
  | cons first later ih =>
      rw [latest]
      split
      · exact ih
      · rename_i last
        refine .cons (fun b hb same => last ?_) ih
        exact List.any_eq_true.mpr ⟨b, mem_of_mem_latest hb, same⟩

theorem storedFor_concat (history : List Touch) (touch : Touch) (key : Config.Key) :
    storedFor (history ++ [touch]) key =
      ((if touch.key == key then touch.stored else none).or (storedFor history key)) := by
  simp only [storedFor, List.reverse_append, List.reverse_singleton, List.findSome?_append,
    List.findSome?_singleton]

/-- Equal keys have the same value stored for them. -/
theorem storedFor_congr {history : List Touch} (hh : ∀ touch ∈ history, touch.key.Hashable)
    {a b : Config.Key} (ha : a.Hashable) (h : (a == b) = true) :
    storedFor history a = storedFor history b := by
  have hb := ha.of_beq h
  -- From the end, because the last touch is the first one that is asked.
  induction history using List.reverseRecOn with
  | nil => rfl
  | append_singleton history touch ih =>
      have ht := hh touch (by simp)
      have alike : (touch.key == a) = (touch.key == b) := Bool.eq_iff_iff.mpr
        ⟨fun e => ht.beq_trans e h, fun e => ht.beq_trans e (ha.beq_symm h)⟩
      rw [storedFor_concat, storedFor_concat, alike,
        ih fun u hu => hh u (List.mem_append_left _ hu)]

/-- An entry is what a history tells of a touched key. -/
structure Holds (history : List Touch) (touch : Touch) (entry : Config.Key × Option String) :
    Prop where
  key : (touch.key == entry.1) = true ∨ touch.key = entry.1
  value : valueOf history touch = some entry.2

theorem Holds.concat {history : List Touch} {touch next : Touch}
    {entry : Config.Key × Option String} (h : Holds history touch entry)
    (other : (next.key == touch.key) = false) : Holds (history ++ [next]) touch entry := by
  refine ⟨h.key, ?_⟩
  rw [valueOf, storedFor_concat, other]
  exact h.value

theorem Holds.hashable {history : List Touch} {touch : Touch}
    {entry : Config.Key × Option String} (h : Holds history touch entry)
    (ht : touch.key.Hashable) : entry.1.Hashable := by
  rcases h.key with same | same
  · exact ht.of_beq same
  · exact same ▸ ht

theorem Holds.beq_eq {history : List Touch} {touch : Touch} {entry : Config.Key × Option String}
    (h : Holds history touch entry) (ht : touch.key.Hashable) {key : Config.Key}
    (hk : key.Hashable) : (entry.1 == key) = (key == touch.key) := by
  rw [Bool.eq_iff_iff]
  have he := h.hashable ht
  rcases h.key with same | same
  · constructor
    · exact fun e => hk.beq_trans (he.beq_symm e) (ht.beq_symm same)
    · exact fun e => hk.beq_symm (hk.beq_trans e same)
  · rw [← same]
    exact ⟨ht.beq_symm, hk.beq_symm⟩

/-- The entries are those that a history tells of, when there is room for so many. -/
structure Reflects (slots : Nat) (history : List Touch)
    (entries : List (Config.Key × Option String)) : Prop where
  hashable : ∀ touch ∈ history, touch.key.Hashable
  holds : List.Forall₂ (Holds history) ((latest history).rtake slots) entries

section Steps

variable {slots : Nat} {history : List Touch} {entries : List (Config.Key × Option String)}

theorem reflects_nil : Reflects slots [] [] :=
  ⟨fun _ h => absurd h List.not_mem_nil, by simp [latest]⟩

theorem Reflects.length_le (h : Reflects slots history entries) : entries.length ≤ slots := by
  rw [← h.holds.length_eq, Recency.length_rtake]
  exact Nat.min_le_left _ _

/-- The touches that are still shown, with the entries that they have. -/
theorem Reflects.shown (h : Reflects slots history entries) :
    List.Forall₂ (fun touch entry => touch.key.Hashable ∧ Holds history touch entry)
      ((latest history).rtake slots) entries := by
  refine (List.forall₂_and_left _ _).mpr ⟨fun touch ht => ?_, h.holds⟩
  exact h.hashable touch (mem_of_mem_latest (List.mem_of_mem_drop ht))

/-- The keys of the entries are different from each other. -/
theorem Reflects.distinct (h : Reflects slots history entries) :
    entries.Pairwise fun a b => (b.1 == a.1) = false := by
  refine Recency.pairwise_of_forall₂ h.shown ?_ (pairwise_latest history).drop
  intro s t a b hs ht differ
  rw [ht.2.beq_eq ht.1 (hs.2.hashable hs.1), hs.2.beq_eq hs.1 ht.1]
  exact Bool.eq_false_iff.mpr differ

theorem Reflects.once (h : Reflects slots history entries) {key : Config.Key} (hk : key.Hashable) :
    (latest history).Pairwise fun a b => ¬((key == a.key) = true ∧ (key == b.key) = true) := by
  refine (pairwise_latest history).imp_of_mem fun {a b} ha hb differ same => differ ?_
  have hashable := h.hashable b (mem_of_mem_latest hb)
  exact hashable.beq_trans (hk.beq_symm same.2) same.1

/-- The entries of the other keys are still what the longer history tells of them. -/
theorem Reflects.others (h : Reflects slots history entries) (touch : Touch)
    (ht : touch.key.Hashable) :
    List.Forall₂ (Holds (history ++ [touch]))
      (((latest history).rtake slots).filter (!touch.key == ·.key))
      (Recency.remove touch.key entries) := by
  have kept := Recency.forall₂_remove (p := fun t => touch.key == t.key)
    (fun t e holds => holds.2.beq_eq holds.1 ht) (h.once ht).drop h.shown
  have apart := (List.forall₂_and_left _ _).mpr ⟨fun t m => (List.mem_filter.mp m).2, kept⟩
  refine apart.imp fun t e holds => holds.2.2.concat ?_
  simpa using holds.1

/-- One touch moves its entry to the end and keeps the most recent of the others. -/
theorem Reflects.move (room : 0 < slots) (h : Reflects slots history entries) (touch : Touch)
    (ht : touch.key.Hashable) {entry : Config.Key × Option String}
    (moved : Holds (history ++ [touch]) touch entry) :
    Reflects slots (history ++ [touch])
      ((Recency.remove touch.key entries).rtake (slots - 1) ++ [entry]) := by
  constructor
  · intro t member
    rcases List.mem_append.mp member with member | member
    · exact h.hashable t member
    · exact List.mem_singleton.mp member ▸ ht
  · -- Only the touch of an equal key is left out, so it may be left out of what is shown already.
    have cut : (latest (history ++ [touch])).rtake slots =
        (((latest history).rtake slots).filter (!touch.key == ·.key)).rtake (slots - 1) ++
          [touch] := by
      rw [latest_concat, ← Recency.rtake_filter (h.once ht)]
      obtain ⟨rest, rfl⟩ := Nat.exists_eq_succ_of_ne_zero room.ne'
      exact List.rtake_concat_succ _ _ _
    rw [cut]
    exact List.rel_append (Recency.forall₂_rtake (h.others touch ht)) (.cons moved .nil)

/-- An entry that is found stands for a touch of an equal key. -/
theorem Reflects.found (h : Reflects slots history entries) {key : Config.Key} (hk : key.Hashable)
    {entry : Config.Key × Option String} (hf : Recency.find? key entries = some entry) :
    ∃ touch, touch.key.Hashable ∧ Holds history touch entry ∧ (key == touch.key) = true ∧
      (key == entry.1) = true := by
  obtain ⟨t, _, hashable, holds⟩ := Recency.exists_of_forall₂ h.shown (Recency.mem_of_find? hf)
  have same : (key == t.key) = true := holds.beq_eq hashable hk ▸ Recency.beq_of_find? hf
  refine ⟨t, hashable, holds, same, ?_⟩
  rcases holds.key with equal | equal
  · exact hk.beq_trans same equal
  · exact equal ▸ same

theorem Reflects.store (room : 0 < slots) (h : Reflects slots history entries) {key : Config.Key}
    (hk : key.Hashable) (value : Option String) :
    Reflects slots (history ++ [⟨key, some value⟩])
      (Recency.store (fun count => decide (count ≤ slots)) key value entries) := by
  rw [Recency.store_eq room h.length_le]
  refine h.move room ⟨key, some value⟩ hk ⟨?_, ?_⟩
  · rw [Recency.keptKey]
    cases hf : Recency.find? key entries with
    | none => exact .inr rfl
    | some entry =>
        obtain ⟨_, _, _, _, same⟩ := h.found hk hf
        exact .inl same
  · rw [valueOf, storedFor_concat]
    cases key == key <;> rfl

theorem Reflects.touch (room : 0 < slots) (h : Reflects slots history entries) {key : Config.Key}
    (hk : key.Hashable) {entry : Config.Key × Option String}
    (hf : Recency.find? key entries = some entry) :
    Reflects slots (history ++ [⟨key, none⟩]) (Recency.touch key entries) := by
  obtain ⟨t, ht, holds, same, equal⟩ := h.found hk hf
  have back := hk.beq_symm same
  rw [Recency.touch_eq h.length_le hf]
  refine h.move room ⟨key, none⟩ hk ⟨.inl equal, ?_⟩
  have value := holds.value
  rw [valueOf, if_pos (ht.beq_trans back same)] at value
  rw [valueOf, if_pos (hk.beq_trans same back), storedFor_concat, ite_self, Option.none_or,
    storedFor_congr h.hashable hk same, value]

end Steps

/-- What a use makes of a cache: it leaves the cache alone, touches an entry or stores one. -/
inductive Effect (c : Cache) : Option Touch → Cache → Prop
  | none : Effect c none c
  | touch {key : Config.Key} {entry : Config.Key × Option String} (hk : key.Hashable)
      (hf : Recency.find? key c.entries = some entry) (hits : Nat) :
      Effect c (some ⟨key, .none⟩)
        { c with entries := Recency.touch key c.entries, hits := hits }
  | store {key : Config.Key} (hk : key.Hashable) (value : Option String) (misses : Nat) :
      Effect c (some ⟨key, some value⟩)
        { c with entries := Recency.store c.capacity.fits key value c.entries, misses := misses }

theorem effect_of_use (generate : Generator) (c : Cache) {u : Use} (hu : u ≠ .clear) :
    Effect c (c.touch? generate u) (c.use generate u).2 := by
  cases u with
  | clear => exact absurd rfl hu
  | stats => exact .none
  | get config =>
      by_cases h : config.key.Hashable
      · cases hs : c.script? config.key with
        | none =>
            simp only [touch?, use, get_absent h hs]
            exact .none
        | some script =>
            obtain ⟨kept, hf⟩ := script?_eq_some_iff.mp hs
            simp only [touch?, use, get_found h hs]
            exact .touch h hf _
      · obtain ⟨kind, refused⟩ := get_refused (c := c) h
        simp only [touch?, use, refused]
        exact .none
  | set config script =>
      by_cases h : config.key.Hashable
      · simp only [touch?, use, set_eq h]
        exact .store h script _
      · obtain ⟨kind, refused⟩ := set_refused (c := c) h script
        simp only [touch?, use, refused]
        exact .none
  | getOrGenerate config =>
      by_cases h : config.key.Hashable
      · cases hs : c.script? config.key with
        | some script =>
            obtain ⟨kept, hf⟩ := script?_eq_some_iff.mp hs
            simp only [touch?, use, getOrGenerate_found h hs, if_true]
            exact .touch h hf _
        | none =>
            cases hg : generate config with
            | ok script =>
                simp only [touch?, use, getOrGenerate_made h hs hg, Nat.succ_ne_self, if_false]
                exact .store h (some script) _
            | error fault =>
                simp only [touch?, use, getOrGenerate_fault h hs hg]
                exact .none
      · obtain ⟨kind, refused⟩ := getOrGenerate_refused (c := c) generate h
        simp only [touch?, use, refused]
        exact .none

theorem Effect.capacity_eq {c after : Cache} {touch : Option Touch} (h : Effect c touch after) :
    after.capacity = c.capacity := by
  cases h <;> rfl

theorem capacity_use (generate : Generator) (c : Cache) (u : Use) :
    (c.use generate u).2.capacity = c.capacity := by
  by_cases hu : u = .clear
  · subst hu
    rfl
  · exact (effect_of_use generate c hu).capacity_eq

theorem fits_ofInt (size : Int) :
    (Capacity.ofInt size).fits = fun count => decide (count ≤ (max 1 size).toNat) := by
  funext count
  rw [Capacity.ofInt]
  split
  · rw [show (max 1 size).toNat = size.toNat by omega]
    rfl
  · rw [show (max 1 size).toNat = 1 by omega]
    rfl

section Runs

variable {slots : Nat} {c : Cache} {history : List Touch}

/-- One touch or store keeps the entries in step with the touches. -/
theorem Effect.reflects {after : Cache} {touch : Option Touch} (effect : Effect c touch after)
    (room : 0 < slots) (fits : c.capacity.fits = fun count => decide (count ≤ slots))
    (h : Reflects slots history c.entries) :
    Reflects slots (history ++ touch.toList) after.entries := by
  cases effect with
  | none =>
      rw [Option.toList_none, List.append_nil]
      exact h
  | touch hk hf hits => exact h.touch room hk hf
  | store hk value misses =>
      rw [fits]
      exact h.store room hk value

theorem reflects_use (room : 0 < slots)
    (fits : c.capacity.fits = fun count => decide (count ≤ slots))
    (h : Reflects slots history c.entries) (step : Generator × Use) :
    Reflects slots (extend history c step) (c.use step.1 step.2).2.entries := by
  obtain ⟨generate, u⟩ := step
  by_cases hu : u = .clear
  · subst hu
    exact reflects_nil
  · have extended : extend history c (generate, u) = history ++ (c.touch? generate u).toList := by
      cases u <;> first | rfl | exact absurd rfl hu
    rw [extended]
    exact (effect_of_use generate c hu).reflects room fits h

theorem reflects_run (room : 0 < slots) (steps : List (Generator × Use))
    (fits : c.capacity.fits = fun count => decide (count ≤ slots))
    (h : Reflects slots history c.entries) :
    Reflects slots (touches history c steps) (c.run steps).entries := by
  induction steps generalizing c history with
  | nil => exact h
  | cons step rest ih =>
      exact ih (by rw [capacity_use, fits]) (reflects_use room fits h step)

theorem capacity_run (steps : List (Generator × Use)) : (c.run steps).capacity = c.capacity := by
  induction steps generalizing c with
  | nil => rfl
  | cons step rest ih => exact ih.trans (capacity_use step.1 c step.2)

/-- Nothing but the first entry of a full cache gets lost in one touch or store. -/
theorem Effect.kept {after : Cache} {touch : Option Touch} (effect : Effect c touch after)
    (room : 0 < slots) (fits : c.capacity.fits = fun count => decide (count ≤ slots))
    (h : c.entries.length ≤ slots) {entry : Config.Key × Option String} (hm : entry ∈ c.entries)
    (stays : c.entries.length < slots ∨ entry ∈ c.entries.tail) :
    ∃ kept ∈ after.entries, kept.1 = entry.1 := by
  cases effect with
  | none => exact ⟨entry, hm, rfl⟩
  | touch hk hf hits => exact ⟨entry, Recency.mem_touch hm, rfl⟩
  | store hk value misses =>
      rw [fits]
      exact Recency.key_mem_store room h value hm stays

end Runs

/-- After any run the entries are the most recent touches of distinct keys, as many as there is room
for, each with the value stored last for its key. No key is there twice, and a further use that is
no clearing loses at most the least recently touched entry of a full cache. -/
theorem entries_are_latest_touches (size : Int) (steps : List (Generator × Use)) :
    let c := (empty (.ofInt size)).run steps
    let history := touches [] (empty (.ofInt size)) steps
    let slots := (max 1 size).toNat
    List.Forall₂ (Holds history) ((latest history).rtake slots) c.entries ∧
      c.entries.Pairwise (fun a b => (b.1 == a.1) = false) ∧ c.entries.length ≤ slots ∧
      ∀ generate u, u ≠ .clear → ∀ entry ∈ c.entries,
        c.entries.length < slots ∨ entry ∈ c.entries.tail →
          ∃ kept ∈ (c.use generate u).2.entries, kept.1 = entry.1 := by
  intro c history slots
  have room : 0 < slots := by omega
  have fits : c.capacity.fits = fun count => decide (count ≤ slots) := by
    rw [capacity_run]
    exact fits_ofInt size
  have reflects : Reflects slots history c.entries :=
    reflects_run room steps (fits_ofInt size) reflects_nil
  refine ⟨reflects.holds, reflects.distinct, reflects.length_le, ?_⟩
  intro generate u hu entry hm stays
  exact (effect_of_use generate c hu).kept room fits reflects.length_le hm stays

end IndicatorDesigner.Cache
