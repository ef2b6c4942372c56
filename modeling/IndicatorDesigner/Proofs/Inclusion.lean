import IndicatorDesigner.Proofs.LeastRecentlyUsed
import IndicatorDesigner.Proofs.Reading
import IndicatorDesigner.Proofs.Transparency
import Mathlib.Algebra.Order.Field.Basic
import Mathlib.Tactic.Positivity

/-!
Caches of different capacities, used alike. The smaller one always holds the most recent keys of the
larger one, so what it finds the larger one finds, too, and the same uses fail in both.
-/
namespace IndicatorDesigner

namespace Script

/-- A whole number that a binary64 number can be is short enough to be written. -/
theorem not_tooLong_of_toRat? {x : Binary64} {n : Int} (h : x.toRat? = some (n : Rat)) :
    (Scalar.int n).tooLong = false := by
  cases x with
  | infinite negative => cases h
  | nan => cases h
  | finite negative m e canonical =>
      obtain ⟨mantissa, _, exponent, _⟩ := canonical
      have size : |(n : ℚ)| = Binary64.magnitude m e := by
        rw [← Option.some.inj h]
        have nonneg : 0 ≤ Binary64.magnitude m e := by
          rw [Binary64.magnitude, Rat.mkRat_eq_div]
          positivity
        cases negative <;> simp [abs_of_nonneg nonneg]
      have whole : |(n : ℚ)| ≤ ((m * twoTo e.toNat : Nat) : ℚ) := by
        rw [size, Binary64.magnitude, Rat.mkRat_eq_div]
        refine div_le_self (by positivity) ?_
        exact_mod_cast twoTo_pos (-e).toNat
      have small : n.natAbs ≤ m * twoTo e.toNat := by
        rw [← Int.cast_abs, Int.abs_eq_natAbs] at whole
        exact_mod_cast whole
      have bound : n.natAbs < 10 ^ Numeral.maxDigits := by
        calc n.natAbs ≤ m * twoTo e.toNat := small
          _ ≤ 10 ^ 16 * 10 ^ e.toNat :=
            Nat.mul_le_mul (by omega) (Nat.pow_le_pow_left (by decide) _)
          _ = 10 ^ (16 + e.toNat) := (Nat.pow_add 10 16 _).symm
          _ < 10 ^ Numeral.maxDigits :=
            Nat.pow_lt_pow_right (by decide) (by rw [Numeral.maxDigits]; omega)
      exact decide_eq_false (not_lt.mpr ((digitCount_le_iff (by decide)).mpr bound))

/-- Of two equal scalars both are short enough to be written, or none is. -/
theorem tooLong_congr {s t : Scalar} (h : s.same t = true) (short : s.tooLong = false) :
    t.tooLong = false := by
  cases t with
  | int n =>
      obtain ⟨_, differ⟩ | ⟨_, _, differ⟩ | ⟨x, hs, ht⟩ := Scalar.same_iff.mp h
      · cases differ
      · cases differ
      obtain rfl : Amount.exact n = x := Option.some.inj ht
      cases s with
      | null => cases hs
      | text t => cases hs
      | int k =>
          obtain rfl : k = n := by simpa [Scalar.amount?] using hs
          exact short
      | bool b =>
          obtain rfl : (if b then 1 else 0) = n := by
            cases b <;> simpa [Scalar.amount?, eq_comm] using hs
          cases b <;> decide
      | float y =>
          cases y with
          | infinite negative => cases hs
          | nan => cases hs
          | finite negative m e canonical =>
              exact not_tooLong_of_toRat? (by simpa [Scalar.amount?] using hs)
  | _ => rfl

theorem plainText_ok_iff {v : Value} : (∃ text, plainText v = .ok text) ↔ v.tooLong = false := by
  rw [plainText]
  cases v.tooLong <;> simp

/-- Of two settings under one key both have a script, or none has. -/
theorem generate_ok_of_beq {a b : Config} (ha : a.key.Hashable) (h : (a.key == b.key) = true)
    {script : String} (hg : generate a = .ok script) : ∃ other, generate b = .ok other := by
  obtain ⟨p, hp, _⟩ := literals_of_generate hg
  have each (f : Field) : ∃ text, f.literal b = .ok text := by
    by_cases hf : f = .lookback
    · subst hf
      have hb := ha.of_beq h
      obtain ⟨s, hs⟩ := ha.lookback
      obtain ⟨t, ht⟩ := hb.lookback
      have period := (List.forall₂_cons.mp (Config.Key.beq_iff.mp h).1).1
      rw [hs, ht] at period
      have short := plainText_ok_iff.mp ⟨_, hp .lookback⟩
      refine plainText_ok_iff.mpr ?_
      rw [show a.lookback = .scalar s from hs] at short
      rw [show b.lookback = .scalar t from ht]
      exact tooLong_congr period short
    · exact ⟨_, (literal_congr ha h hf).symm.trans (hp f)⟩
  choose q hq using each
  exact ⟨_, generate_of_literals hq⟩

end Script

namespace Cache

/-- The fault of a reply, if it is one. -/
def Reply.fault? : Reply → Option Fault
  | .failed fault => some fault
  | _ => none

/-- The replies to a run of uses. -/
def replies (generate : Generator) : Cache → List Use → List Reply
  | _, [] => []
  | c, u :: rest => (c.use generate u).1 :: replies generate (c.use generate u).2 rest

/-- A use for a script of settings without NaN, or one that clears the cache. -/
inductive Use.Plain : Use → Prop
  | getOrGenerate {config : Config} (free : config.key.NanFree) : Plain (.getOrGenerate config)
  | clear : Plain .clear

/-- A cache all of whose entries were generated. -/
abbrev Generated (c : Cache) : Prop := c.Kept fun _ => True

/-- What giving a script makes of a cache: its key is touched, and it counts as found or as made. -/
structure Served (c : Cache) (key : Config.Key) (found : Bool) (after : Cache) : Prop where
  effect : ∃ stored, Effect c (some ⟨key, stored⟩) after
  generated : after.Generated
  hits : after.hits = c.hits + found.toNat
  misses : after.misses = c.misses + (!found).toNat

/-- Settings of which a script is found are such that one can be made. -/
theorem Kept.generates {c : Cache} {config : Config} (h : c.Generated) {script : String}
    (hs : c.script? config.key = some script) : ∃ other, Script.generate config = .ok other := by
  obtain ⟨kept, hf⟩ := script?_eq_some_iff.mp hs
  obtain ⟨earlier, found, _, he, equal, hg⟩ := h _ (Recency.mem_of_find? hf)
  obtain ⟨rfl, _⟩ := Prod.mk.inj equal
  exact Script.generate_ok_of_beq he (Recency.beq_of_find? hf) hg

section Serving
variable {c : Cache} {config : Config}

/-- Settings for which a script can be made are given one by every cache. -/
theorem use_served (h : c.Generated) (hk : config.key.Hashable) {script : String}
    (hg : Script.generate config = .ok script) :
    ∃ given after, c.use .scripts (.getOrGenerate config) = (.script (some given), after) ∧
      Served c config.key (c.script? config.key).isSome after := by
  cases hs : c.script? config.key with
  | some found =>
      obtain ⟨kept, hf⟩ := script?_eq_some_iff.mp hs
      have given : getOrGenerate .scripts c config = _ := getOrGenerate_found hk hs
      refine ⟨found, _, by simp only [use, given]; rfl, ⟨⟨_, .touch hk hf _⟩, ?_, rfl, rfl⟩⟩
      exact h.touch config.key _
  | none =>
      have given := getOrGenerate_made hk hs (scripts_eq_ok_iff.mpr hg)
      refine ⟨script, _, by simp only [use, given]; rfl, ⟨⟨_, .store hk _ _⟩, ?_, rfl, rfl⟩⟩
      exact h.store trivial hk hs hg _

/-- Settings for which no script can be made fail in every cache, for the same reason. -/
theorem use_fault (h : c.Generated) (hk : config.key.Hashable) {fault : Script.Fault}
    (hg : Script.generate config = .error fault) :
    c.use .scripts (.getOrGenerate config) = (.failed (.script fault), c) := by
  have failed : Generator.scripts config = .error (.script fault) := by
    rw [Generator.scripts, hg]
    rfl
  cases hs : c.script? config.key with
  | some found =>
      obtain ⟨script, made⟩ := h.generates hs
      rw [made] at hg
      cases hg
  | none => simp only [use, getOrGenerate_fault hk hs failed]

/-- Settings that cannot be looked up are refused by every cache. -/
theorem use_refused (hk : ¬config.key.Hashable) :
    ∃ fault, ∀ c : Cache, c.use .scripts (.getOrGenerate config) = (.failed fault, c) := by
  obtain ⟨kind, unhashable⟩ := keyOf_of_not_hashable hk
  refine ⟨.unhashable kind, ?_⟩
  intro c
  simp only [use, getOrGenerate, get, unhashable, bind, Except.bind]

end Serving

theorem latest_keys {first second : List Touch}
    (h : first.map Touch.key = second.map Touch.key) :
    (latest first).map Touch.key = (latest second).map Touch.key := by
  induction first generalizing second with
  | nil =>
      obtain rfl := List.map_eq_nil_iff.mp h.symm
      rfl
  | cons touch later ih =>
      cases second with
      | nil => cases h
      | cons other others =>
          rw [List.map_cons, List.map_cons, List.cons.injEq] at h
          have alike : later.any (·.key == touch.key) = others.any (·.key == other.key) := by
            have := congrArg (List.any · (· == touch.key)) h.2
            simpa only [List.any_map, Function.comp_def, h.1] using this
          rw [latest, latest, alike]
          split
          · exact ih h.2
          · rw [List.map_cons, List.map_cons, h.1, ih h.2]

/-- Two caches after the same uses, with what each was touched by: the same keys were touched, and
the larger cache found at least as much. -/
structure Within (m n : Nat) (smallTouches largeTouches : List Touch) (small large : Cache) :
    Prop where
  smallEntries : Reflects m smallTouches small.entries
  largeEntries : Reflects n largeTouches large.entries
  keys : smallTouches.map Touch.key = largeTouches.map Touch.key
  reflexive : ∀ touch ∈ smallTouches, (touch.key == touch.key) = true
  smallFits : small.capacity.fits = fun count => decide (count ≤ m)
  largeFits : large.capacity.fits = fun count => decide (count ≤ n)
  smallGenerated : small.Generated
  largeGenerated : large.Generated
  hits : small.hits ≤ large.hits
  counted : small.hits + small.misses = large.hits + large.misses

section Within
variable {m n : Nat} {smallTouches largeTouches : List Touch} {small large : Cache}

/-- An entry stands for the key of the touch that it shows. -/
theorem shown_keys {slots : Nat} {touches : List Touch}
    {entries : List (Config.Key × Option String)} (h : Reflects slots touches entries)
    (reflexive : ∀ touch ∈ touches, (touch.key == touch.key) = true) :
    List.Forall₂ (fun (key : Config.Key) (entry : Config.Key × Option String) =>
      key.Hashable ∧ (key == entry.1) = true)
      (((latest touches).map Touch.key).rtake slots) entries := by
  rw [← Recency.map_rtake, List.forall₂_map_left_iff]
  have known : ∀ touch ∈ (latest touches).rtake slots, (touch.key == touch.key) = true :=
    fun touch ht => reflexive touch (mem_of_mem_latest (List.mem_of_mem_drop ht))
  refine ((List.forall₂_and_left _ _).mpr ⟨known, h.shown⟩).imp ?_
  intro touch entry ⟨same, hashable, holds⟩
  refine ⟨hashable, ?_⟩
  rcases holds.key with equal | equal
  · exact equal
  · exact equal ▸ same

theorem reflexive_of_keys (w : Within m n smallTouches largeTouches small large) :
    ∀ touch ∈ largeTouches, (touch.key == touch.key) = true := by
  intro touch ht
  have member : touch.key ∈ smallTouches.map Touch.key :=
    w.keys ▸ List.mem_map_of_mem ht
  obtain ⟨other, ho, same⟩ := List.mem_map.mp member
  exact same ▸ w.reflexive other ho

theorem within_empty {m n : Int} (hm : 1 ≤ m) (hn : 1 ≤ n) :
    Within m.toNat n.toNat [] [] (empty (.ofInt m)) (empty (.ofInt n)) where
  smallEntries := reflects_nil
  largeEntries := reflects_nil
  keys := rfl
  reflexive := fun _ h => absurd h List.not_mem_nil
  smallFits := by rw [empty, fits_ofInt, max_eq_right hm]
  largeFits := by rw [empty, fits_ofInt, max_eq_right hn]
  smallGenerated := kept_empty _
  largeGenerated := kept_empty _
  hits := Nat.le_refl 0
  counted := rfl

theorem Within.clear (w : Within m n smallTouches largeTouches small large) :
    Within m n [] [] small.clear large.clear :=
  { w with
    smallEntries := reflects_nil
    largeEntries := reflects_nil
    keys := rfl
    reflexive := fun _ h => absurd h List.not_mem_nil
    smallGenerated := fun _ h => absurd h List.not_mem_nil
    largeGenerated := fun _ h => absurd h List.not_mem_nil }

theorem Within.misses (w : Within m n smallTouches largeTouches small large) :
    large.misses ≤ small.misses := by
  have := w.counted
  have := w.hits
  omega

/-- The keys of the smaller cache are the most recent ones of the larger cache. -/
theorem Within.inclusion (w : Within m n smallTouches largeTouches small large) (h : m ≤ n) :
    List.Forall₂ (fun a b => (a.1 == b.1) = true) small.entries (large.entries.rtake m) := by
  have smallKeys := shown_keys w.smallEntries w.reflexive
  have largeKeys := Recency.forall₂_rtake (n := m) (shown_keys w.largeEntries (reflexive_of_keys w))
  rw [Recency.rtake_rtake h, ← latest_keys w.keys] at largeKeys
  refine Recency.forall₂_of_common ?_ smallKeys largeKeys
  intro key a b ha hb
  exact (ha.1.of_beq ha.2).beq_trans (ha.1.beq_symm ha.2) hb.2

/-- What the smaller cache finds the larger one finds, too. -/
theorem Within.found (w : Within m n smallTouches largeTouches small large) (h : m ≤ n)
    {key : Config.Key} (hk : key.Hashable) {script : String}
    (hs : small.script? key = some script) : ∃ other, large.script? key = some other := by
  obtain ⟨kept, hf⟩ := script?_eq_some_iff.mp hs
  obtain ⟨_, _, _, _, equal⟩ := w.smallEntries.found hk hf
  obtain ⟨entry, hm, same⟩ :=
    Recency.exists_of_forall₂ (w.inclusion h).flip (Recency.mem_of_find? hf)
  have known : (entry.1 == key) = true := hk.beq_symm (hk.beq_trans equal same)
  cases hl : large.script? key with
  | some other => exact ⟨other, rfl⟩
  | none =>
      have absent := w.largeGenerated.find?_eq_none hl
      rw [Recency.find?_eq_find?, List.find?_eq_none] at absent
      exact absurd known (absent entry (List.mem_of_mem_drop hm))

theorem Within.serve {found known : Bool} {key : Config.Key} {small' large' : Cache}
    (w : Within m n smallTouches largeTouches small large) (roomSmall : 0 < m) (roomLarge : 0 < n)
    (free : (key == key) = true) (hs : Served small key found small')
    (hl : Served large key known large') (more : found = true → known = true) :
    ∃ first second, Within m n first second small' large' := by
  obtain ⟨stored, effect⟩ := hs.effect
  obtain ⟨other, effect'⟩ := hl.effect
  refine ⟨smallTouches ++ [⟨key, stored⟩], largeTouches ++ [⟨key, other⟩], ?_⟩
  exact
    { smallEntries := effect.reflects roomSmall w.smallFits w.smallEntries
      largeEntries := effect'.reflects roomLarge w.largeFits w.largeEntries
      keys := by rw [List.map_append, List.map_append, w.keys]; rfl
      reflexive := by
        intro touch ht
        rcases List.mem_append.mp ht with ht | ht
        · exact w.reflexive touch ht
        · exact List.mem_singleton.mp ht ▸ free
      smallFits := by rw [effect.capacity_eq, w.smallFits]
      largeFits := by rw [effect'.capacity_eq, w.largeFits]
      smallGenerated := hs.generated
      largeGenerated := hl.generated
      hits := by
        rw [hs.hits, hl.hits]
        exact Nat.add_le_add w.hits (by cases found <;> simp_all)
      counted := by
        have := w.counted
        rw [hs.hits, hs.misses, hl.hits, hl.misses]
        cases found <;> cases known <;> simp <;> omega }

/-- One use keeps the caches in step, and fails in both or in none. -/
theorem Within.step (w : Within m n smallTouches largeTouches small large) (room : 0 < m)
    (h : m ≤ n) {u : Use} (plain : u.Plain) :
    (small.use .scripts u).1.fault? = (large.use .scripts u).1.fault? ∧
      ∃ first second, Within m n first second (small.use .scripts u).2
        (large.use .scripts u).2 := by
  cases plain with
  | clear => exact ⟨rfl, [], [], w.clear⟩
  | @getOrGenerate config free =>
      by_cases hk : config.key.Hashable
      · cases hg : Script.generate config with
        | ok script =>
            obtain ⟨_, _, usedSmall, servedSmall⟩ := use_served w.smallGenerated hk hg
            obtain ⟨_, _, usedLarge, servedLarge⟩ := use_served w.largeGenerated hk hg
            rw [usedSmall, usedLarge]
            have reflexive := hk.beq_self free
            refine ⟨rfl, w.serve room (room.trans_le h) reflexive servedSmall servedLarge ?_⟩
            intro found
            obtain ⟨script, hs⟩ := Option.isSome_iff_exists.mp found
            exact Option.isSome_iff_exists.mpr (w.found h hk hs)
        | error fault =>
            rw [use_fault w.smallGenerated hk hg, use_fault w.largeGenerated hk hg]
            exact ⟨rfl, _, _, w⟩
      · obtain ⟨fault, refused⟩ := use_refused hk
        rw [refused small, refused large]
        exact ⟨rfl, _, _, w⟩

theorem Within.run (w : Within m n smallTouches largeTouches small large) (room : 0 < m)
    (h : m ≤ n) {uses : List Use} (plain : ∀ u ∈ uses, u.Plain) :
    (replies .scripts small uses).map Reply.fault? =
        (replies .scripts large uses).map Reply.fault? ∧
      ∃ first second, Within m n first second (after .scripts small uses)
        (after .scripts large uses) := by
  induction uses generalizing small large smallTouches largeTouches with
  | nil => exact ⟨rfl, _, _, w⟩
  | cons u rest ih =>
      obtain ⟨same, _, _, next⟩ := w.step room h (plain u List.mem_cons_self)
      obtain ⟨others, last⟩ := ih next fun u hu => plain u (List.mem_cons_of_mem _ hu)
      refine ⟨?_, last⟩
      rw [replies, replies, List.map_cons, List.map_cons, same, others]

end Within

/-- Used alike without NaN, a cache with less room holds the most recent keys of one with more:
after any run its keys are the last ones of the other, in the same order. What it finds the other
finds, too, so it counts no more hits and no fewer misses, and the same uses fail in both. -/
theorem smaller_cache_within_larger {m n : Int} (hm : 1 ≤ m) (hn : m ≤ n) {uses : List Use}
    (plain : ∀ u ∈ uses, u.Plain) :
    let small := after .scripts (empty (.ofInt m)) uses
    let large := after .scripts (empty (.ofInt n)) uses
    List.Forall₂ (fun a b => (a.1 == b.1) = true) small.entries (large.entries.rtake m.toNat) ∧
      (replies .scripts (empty (.ofInt m)) uses).map Reply.fault? =
        (replies .scripts (empty (.ofInt n)) uses).map Reply.fault? ∧
      small.hits ≤ large.hits ∧ large.misses ≤ small.misses ∧
      ∀ key : Config.Key, key.Hashable → ∀ script, small.script? key = some script →
        ∃ other, large.script? key = some other := by
  intro small large
  have ordered : m.toNat ≤ n.toNat := Int.toNat_le_toNat hn
  have start : Within m.toNat n.toNat [] [] (empty (.ofInt m)) (empty (.ofInt n)) :=
    within_empty hm (hm.trans hn)
  obtain ⟨faults, first, second, w⟩ := start.run (by omega) ordered plain
  refine ⟨w.inclusion ordered, faults, w.hits, w.misses, ?_⟩
  intro key hk script hs
  exact w.found ordered hk hs

/-- The larger cache still has the script that the smaller one makes again. -/
theorem one_script_within_two :
    let longer : Config := { Config.standard with lookback := .int 200 }
    let nested : Config := { Config.standard with lookback := .list [] }
    let uses : List Use := [.getOrGenerate .standard, .getOrGenerate longer,
      .getOrGenerate nested, .getOrGenerate .standard, .clear, .getOrGenerate longer]
    let small := after .scripts (empty (.ofInt 1)) uses
    let large := after .scripts (empty (.ofInt 2)) uses
    (∀ u ∈ uses, u.Plain) ∧
      List.Forall₂ (fun a b => (a.1 == b.1) = true) small.entries (large.entries.rtake 1) ∧
      (replies .scripts (empty (.ofInt 1)) uses).map Reply.fault? =
        (replies .scripts (empty (.ofInt 2)) uses).map Reply.fault? ∧
      small.hits ≤ large.hits ∧ large.misses ≤ small.misses := by
  intro longer nested uses small large
  have plain : ∀ u ∈ uses, u.Plain := by
    simp only [uses, List.forall_mem_cons, List.not_mem_nil, false_imp_iff, implies_true, and_true]
    exact ⟨.getOrGenerate (by decide), .getOrGenerate (by decide), .getOrGenerate (by decide),
      .getOrGenerate (by decide), .clear, .getOrGenerate (by decide)⟩
  obtain ⟨keys, faults, hits, misses, _⟩ :=
    smaller_cache_within_larger (m := 1) (n := 2) (by decide) (by decide) plain
  exact ⟨plain, keys, faults, hits, misses⟩

end Cache
end IndicatorDesigner
