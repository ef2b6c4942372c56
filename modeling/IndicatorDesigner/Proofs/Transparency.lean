import IndicatorDesigner.Proofs.Recency
import IndicatorDesigner.Proofs.Rendering
import IndicatorDesigner.Proofs.Uses

/-!
What a cache of scripts may show. It gives the script that would be made anew, as long as settings
under one key write their period the same; settings that do not may get the script of each other.
-/
namespace IndicatorDesigner.Cache

/-- Every entry is a script for some settings of a certain kind, under their key. -/
def Kept (made : Config → Prop) (c : Cache) : Prop :=
  ∀ entry ∈ c.entries, ∃ config script, made config ∧ config.key.Hashable ∧
    entry = (config.key, some script) ∧ Script.generate config = .ok script

variable {made : Config → Prop} {c : Cache}

theorem kept_empty (capacity : Capacity) : Kept made (empty capacity) :=
  fun _ h => absurd h List.not_mem_nil

theorem Kept.touch (h : Kept made c) (key : Config.Key) (hits : Nat) :
    Kept made { c with entries := Recency.touch key c.entries, hits := hits } :=
  fun entry hm => h entry (Recency.mem_of_mem_touch hm)

/-- A key without a script has no entry at all. -/
theorem Kept.find?_eq_none (h : Kept made c) {key : Config.Key} (hs : c.script? key = none) :
    Recency.find? key c.entries = none := by
  cases hf : Recency.find? key c.entries with
  | none => rfl
  | some entry =>
      obtain ⟨config, script, _, _, rfl, _⟩ := h entry (Recency.mem_of_find? hf)
      rw [script?_eq_some_iff.mpr ⟨_, hf⟩] at hs
      cases hs

theorem Kept.store (h : Kept made c) {config : Config} (hc : made config)
    (hk : config.key.Hashable) (hs : c.script? config.key = none) {script : String}
    (hg : Script.generate config = .ok script) (misses : Nat) :
    Kept made { c with
      entries := Recency.store c.capacity.fits config.key (some script) c.entries
      misses := misses } := by
  intro entry hm
  rcases Recency.mem_of_mem_store (h.find?_eq_none hs) hm with hm | rfl
  · exact h entry hm
  · exact ⟨config, script, hc, hk, rfl, hg⟩

theorem scripts_eq_ok_iff {config : Config} {script : String} :
    Generator.scripts config = .ok script ↔ Script.generate config = .ok script := by
  rw [Generator.scripts]
  cases Script.generate config <;> simp [Except.mapError]

/-- A kept script is the one that would be made anew, if the settings that it was made for wrote
their period the same. -/
theorem Kept.script_eq (h : Kept made c) {config : Config}
    (period : ∀ earlier, made earlier → (earlier.key == config.key) = true →
      Script.plainText earlier.lookback = Script.plainText config.lookback)
    {script : String} (hs : c.script? config.key = some script) :
    Script.generate config = .ok script := by
  obtain ⟨kept, hf⟩ := script?_eq_some_iff.mp hs
  obtain ⟨earlier, found, hm, he, equal, hg⟩ := h _ (Recency.mem_of_find? hf)
  have same := Recency.beq_of_find? hf
  simp only [Prod.mk.injEq, Option.some.injEq] at equal
  obtain ⟨rfl, rfl⟩ := equal
  rw [← Script.generate_congr_of_beq he same (period earlier hm same), hg]

/-- What is found or made is what would be made anew, a script or a fault. -/
theorem Kept.getOrGenerate_eq (h : Kept made c) {config : Config} (hk : config.key.Hashable)
    (period : ∀ earlier, made earlier → (earlier.key == config.key) = true →
      Script.plainText earlier.lookback = Script.plainText config.lookback) :
    (getOrGenerate .scripts c config).map (·.1) = Generator.scripts config := by
  cases hs : c.script? config.key with
  | some script =>
      rw [getOrGenerate_found hk hs, scripts_eq_ok_iff.mpr (h.script_eq period hs)]
      rfl
  | none =>
      cases hg : Generator.scripts config with
      | ok script => rw [getOrGenerate_made hk hs hg]; rfl
      | error fault => rw [getOrGenerate_fault hk hs hg]; rfl

theorem Kept.getOrGenerate (h : Kept made c) {config : Config} (hc : made config)
    {script : String} {after : Cache}
    (hg : Cache.getOrGenerate .scripts c config = .ok (script, after)) : Kept made after := by
  by_cases hk : config.key.Hashable
  · cases hs : c.script? config.key with
    | some script =>
        rw [getOrGenerate_found hk hs] at hg
        obtain ⟨rfl, rfl⟩ := Prod.mk.inj (Except.ok.inj hg)
        exact h.touch config.key _
    | none =>
        cases hm : Generator.scripts config with
        | ok script =>
            rw [getOrGenerate_made hk hs hm] at hg
            obtain ⟨rfl, rfl⟩ := Prod.mk.inj (Except.ok.inj hg)
            exact h.store hc hk hs (scripts_eq_ok_iff.mp hm) _
        | error fault => rw [getOrGenerate_fault hk hs hm] at hg; cases hg
  · obtain ⟨kind, refused⟩ := getOrGenerate_refused .scripts hk
    rw [refused] at hg
    cases hg

theorem Kept.get (h : Kept made c) {config : Config} {script : Option String} {after : Cache}
    (hg : c.get config = .ok (script, after)) : Kept made after := by
  by_cases hk : config.key.Hashable
  · cases hs : c.script? config.key with
    | some script =>
        rw [get_found hk hs] at hg
        obtain ⟨rfl, rfl⟩ := Prod.mk.inj (Except.ok.inj hg)
        exact h.touch config.key _
    | none =>
        rw [get_absent hk hs] at hg
        obtain ⟨rfl, rfl⟩ := Prod.mk.inj (Except.ok.inj hg)
        exact h
  · obtain ⟨kind, refused⟩ := get_refused (c := c) hk
    rw [refused] at hg
    cases hg

theorem Kept.use (h : Kept made c) {u : Use} (noStore : ∀ config script, u ≠ .set config script)
    (madeOf : ∀ config, u = .getOrGenerate config → made config) :
    Kept made (c.use .scripts u).2 := by
  cases u with
  | set config script => exact absurd rfl (noStore config script)
  | clear => exact fun _ hm => absurd hm List.not_mem_nil
  | stats => exact h
  | get config =>
      cases hg : c.get config with
      | ok result =>
          simp only [Cache.use, hg]
          exact h.get hg
      | error fault =>
          simp only [Cache.use, hg]
          exact h
  | getOrGenerate config =>
      cases hg : Cache.getOrGenerate .scripts c config with
      | ok result =>
          simp only [Cache.use, hg]
          exact h.getOrGenerate (madeOf config rfl) hg
      | error fault =>
          simp only [Cache.use, hg]
          exact h

theorem Kept.after {uses : List Use} (h : Kept made c)
    (noStore : ∀ config script, Use.set config script ∉ uses)
    (madeOf : ∀ config, Use.getOrGenerate config ∈ uses → made config) :
    Kept made (Cache.after .scripts c uses) := by
  induction uses generalizing c with
  | nil => exact h
  | cons u rest ih =>
      refine ih (h.use ?_ ?_) ?_ ?_
      · rintro config script rfl
        exact noStore config script List.mem_cons_self
      · rintro config rfl
        exact madeOf config List.mem_cons_self
      · exact fun config script hm => noStore config script (List.mem_cons_of_mem u hm)
      · exact fun config hm => madeOf config (List.mem_cons_of_mem u hm)

/-- Settings under one key that have a script have the same one exactly if their periods are written
the same. -/
theorem generate_eq_iff {a b : Config} (ha : a.key.Hashable) (h : (a.key == b.key) = true)
    {script : String} (hg : Script.generate a = .ok script) :
    Script.generate b = .ok script ↔
      Script.plainText a.lookback = Script.plainText b.lookback := by
  constructor
  · intro hb
    obtain ⟨p, hp, rfl⟩ := Script.literals_of_generate hg
    obtain ⟨q, hq, same⟩ := Script.literals_of_generate hb
    have others : ∀ f, f ≠ Script.Field.lookback → p f = q f := by
      intro f hf
      have alike := Script.literal_congr ha h hf
      rw [hp, hq] at alike
      exact Except.ok.inj alike
    have lookback := Script.literal_eq_of_document_eq others same
    exact (hp .lookback).trans (lookback ▸ (hq .lookback).symm)
  · intro period
    rw [← Script.generate_congr_of_beq ha h period, hg]

/-- In every state that is reached without storing a script by hand, a cache gives what would be
made anew to settings that can be looked up, if all settings under the same key before wrote their
period the same; it refuses settings that cannot be looked up. Of any two settings under one key the
periods decide whether their scripts are the same, and periods that are whole numbers agree. -/
theorem getOrGenerate_after_eq_generate (capacity : Capacity) (uses : List Use)
    (noStore : ∀ config script, Use.set config script ∉ uses) :
    (∀ config : Config, config.key.Hashable →
      (∀ earlier, Use.getOrGenerate earlier ∈ uses → (earlier.key == config.key) = true →
        Script.plainText earlier.lookback = Script.plainText config.lookback) →
      (getOrGenerate .scripts (after .scripts (empty capacity) uses) config).map (·.1) =
        Generator.scripts config) ∧
    (∀ config : Config, ¬config.key.Hashable → ∃ kind,
      getOrGenerate .scripts (after .scripts (empty capacity) uses) config =
        .error (.unhashable kind)) ∧
    (∀ (a b : Config) (script : String), a.key.Hashable → (a.key == b.key) = true →
      Script.generate a = .ok script →
      (Script.generate b = .ok script ↔
        Script.plainText a.lookback = Script.plainText b.lookback)) ∧
    ∀ (a b : Config) (m n : Int), a.lookback = .int m → b.lookback = .int n →
      a.key.Hashable → (a.key == b.key) = true → Script.generate a = Script.generate b := by
  have kept : Kept (fun config => .getOrGenerate config ∈ uses)
      (after .scripts (empty capacity) uses) := (kept_empty capacity).after noStore fun _ => id
  refine ⟨?_, ?_, ?_, ?_⟩
  · intro config hashable period
    exact kept.getOrGenerate_eq hashable period
  · intro config refused
    exact getOrGenerate_refused .scripts refused
  · intro a b script hashable same generated
    exact generate_eq_iff hashable same generated
  · intro a b m n ha hb hashable same
    have period := Config.lookback_eq_of_int ha hb same
    exact Script.generate_congr_of_beq hashable same (congrArg Script.plainText period)

theorem getOrGenerate_again_eq_generate :
    (∀ config script, Use.set config script ∉ [Use.getOrGenerate .standard, .get .standard]) ∧
      (getOrGenerate .scripts (after .scripts (empty (.ofInt 1))
        [.getOrGenerate .standard, .get .standard]) .standard).map (·.1) =
          Generator.scripts .standard := by
  have noStore :
      ∀ config script, Use.set config script ∉ [Use.getOrGenerate .standard, .get .standard] := by
    simp
  refine ⟨noStore, (getOrGenerate_after_eq_generate _ _ noStore).1 .standard ?_ ?_⟩
  · exact (Config.Key.unhashable?_eq_none_iff _).mp (by decide)
  · intro earlier hm _
    simp only [List.mem_cons, Use.getOrGenerate.injEq, reduceCtorEq, List.not_mem_nil,
      or_false] at hm
    rw [hm]

theorem exists_literal_standard (f : Script.Field) :
    ∃ text : String, f.literal .standard = .ok text := by
  cases f with
  | enabled f => exact ⟨_, rfl⟩
  | weight f => cases f <;> exact ⟨_, rfl⟩
  | _ => exact ⟨_, rfl⟩

/-- A period of a hundred bars that is no whole number gets the script of one that is. -/
theorem fraction_gets_script_of_whole :
    let whole : Config := .standard
    let fraction : Config := { whole with lookback := .float 100.0 }
    let c := after .scripts (empty (.ofInt 256)) [.getOrGenerate whole]
    ∃ script other, Script.generate fraction = .ok other ∧
      (getOrGenerate .scripts c fraction).map (·.1) = .ok script ∧ script ≠ other := by
  intro whole fraction c
  have hashable : whole.key.Hashable := (Config.Key.unhashable?_eq_none_iff _).mp (by decide)
  have same : (whole.key == fraction.key) = true := by decide
  choose p hp using exists_literal_standard
  have hq : ∀ f, Script.Field.literal fraction f =
      .ok (Function.update p .lookback "100.0" f) := by
    intro f
    by_cases hf : f = .lookback
    · subst hf
      rw [Function.update_self]
      decide
    · rw [Function.update_of_ne hf, ← Script.literal_congr hashable same hf, hp f]
  have generated : Script.generate whole = .ok (Script.document p) :=
    Script.generate_of_literals hp
  have entries : c.entries = [(whole.key, some (Script.document p))] := by
    simp only [c, after, use]
    rw [getOrGenerate_made hashable rfl (scripts_eq_ok_iff.mpr generated)]
    rfl
  have found : c.script? fraction.key = some (Script.document p) := by
    rw [script?, entries, Recency.find?, if_pos same]
    rfl
  refine ⟨Script.document p, _, Script.generate_of_literals hq, ?_, fun equal => ?_⟩
  · rw [getOrGenerate_found (hashable.of_beq same) found]
    rfl
  · have other : Script.generate fraction = .ok (Script.document p) := by
      rw [equal]
      exact Script.generate_of_literals hq
    have written := (generate_eq_iff hashable same generated).mp other
    exact absurd written (by decide)

end IndicatorDesigner.Cache
