import IndicatorDesigner.Proofs.LeastRecentlyUsed

/-!
The uses of a cache in the order in which they read and change it. A lookup, the generator and a
store follow each other, and a failure undoes nothing that was done before it, yet each use that
fails leaves all as it was. The counters count what was found and what was generated.
-/
namespace IndicatorDesigner

theorem Recency.length_touch {κ ν : Type} [BEq κ] (key : κ) (entries : List (κ × ν)) :
    (touch key entries).length = entries.length := by
  rw [touch]
  cases hf : find? key entries with
  | none => rfl
  | some entry =>
      have one := List.length_pos_of_mem (mem_of_find? hf)
      rw [List.length_append, length_remove hf, List.length_singleton]
      omega

theorem Recency.length_store_le {κ ν : Type} [BEq κ] (fits : Nat → Bool) (key : κ) (value : ν)
    (entries : List (κ × ν)) : (store fits key value entries).length ≤ entries.length + 1 := by
  rw [store]
  cases hf : find? key entries with
  | none =>
      have room := (makeRoom_suffix fits entries).length_le
      simp only [List.length_append, List.length_singleton]
      omega
  | some entry =>
      simp only [List.length_append, List.length_singleton, length_remove hf]
      omega

/-- A cache with the number of scripts that were generated for it. -/
structure Counted where
  cache : Cache
  made : Nat

/-- A use under way. What it has changed stays so if it fails later on. -/
abbrev Work := ExceptT Cache.Fault (StateM Counted)

namespace Work

open Cache (Use Fault)

def keyOf (config : Config) : Work Config.Key := ExceptT.mk (pure (Cache.keyOf config))

def keep (change : List (Config.Key × Option String) → List (Config.Key × Option String)) :
    Work Unit :=
  modify fun s => { s with cache := { s.cache with entries := change s.cache.entries } }

def lookUp (config : Config) : Work (Option String) := do
  let key ← keyOf config
  match (← get).cache.script? key with
  | some script =>
    keep (Recency.touch key)
    return some script
  | none => return none

def store (config : Config) (script : Option String) : Work Unit := do
  let key ← keyOf config
  keep (Recency.store (← get).cache.capacity.fits key script)

def make (generate : Generator) (config : Config) : Work String := do
  let script ← ExceptT.mk (pure (generate config))
  modify fun s => { s with made := s.made + 1 }
  return script

/-- Each part may fail when the parts before it are done. -/
def findOrMake (generate : Generator) (config : Config) : Work String := do
  match ← lookUp config with
  | some script =>
    modify fun s => { s with cache := { s.cache with hits := s.cache.hits + 1 } }
    return script
  | none =>
    let script ← make generate config
    store config (some script)
    modify fun s => { s with cache := { s.cache with misses := s.cache.misses + 1 } }
    return script

def clear : Work Nat := do
  let count := (← get).cache.entries.length
  keep fun _ => []
  return count

def perform (generate : Generator) : Use → Work Cache.Reply
  | .get config => return .script (← lookUp config)
  | .set config script => do
    store config script
    return .done
  | .getOrGenerate config => return .script (some (← findOrMake generate config))
  | .clear => return .cleared (← clear)
  | .stats => return .done

section Steps

variable {α β : Type} {s t : Counted} {c : Cache} {made : Nat} {generate : Generator}
  {config : Config}

theorem run_bind_of_ok {x : Work α} {a : α} (h : x.run s = (.ok a, t)) (f : α → Work β) :
    (x >>= f).run s = (f a).run t := by
  change ExceptT.bindCont f (x.run s).1 (x.run s).2 = _
  rw [h]
  rfl

theorem run_bind_of_error {x : Work α} {fault : Fault} (h : x.run s = (.error fault, t))
    (f : α → Work β) : (x >>= f).run s = (.error fault, t) := by
  change ExceptT.bindCont f (x.run s).1 (x.run s).2 = _
  rw [h]
  rfl

theorem run_get : (get : Work Counted).run s = (.ok s, s) := rfl

theorem run_keyOf : (keyOf config).run s = (Cache.keyOf config, s) := rfl

theorem run_keyOf_hashable (h : config.key.Hashable) :
    (keyOf config).run s = (.ok config.key, s) := by
  rw [run_keyOf, Cache.keyOf_of_hashable h]

theorem run_lookUp_found (h : config.key.Hashable) {script : String}
    (hs : c.script? config.key = some script) :
    (lookUp config).run ⟨c, made⟩ =
      (.ok (some script), ⟨{ c with entries := Recency.touch config.key c.entries }, made⟩) := by
  rw [lookUp, run_bind_of_ok (run_keyOf_hashable h), run_bind_of_ok run_get, hs]
  rfl

theorem run_lookUp_absent (h : config.key.Hashable) (hs : c.script? config.key = none) :
    (lookUp config).run ⟨c, made⟩ = (.ok none, ⟨c, made⟩) := by
  rw [lookUp, run_bind_of_ok (run_keyOf_hashable h), run_bind_of_ok run_get, hs]
  rfl

theorem run_lookUp_refused {fault : Fault} (hk : Cache.keyOf config = .error fault) :
    (lookUp config).run s = (.error fault, s) := by
  have refused : (keyOf config).run s = (.error fault, s) := by rw [run_keyOf, hk]
  rw [lookUp, run_bind_of_error refused]

theorem run_store (h : config.key.Hashable) (script : Option String) :
    (store config script).run ⟨c, made⟩ =
      (.ok (), ⟨{ c with
        entries := Recency.store c.capacity.fits config.key script c.entries }, made⟩) := by
  rw [store, run_bind_of_ok (run_keyOf_hashable h), run_bind_of_ok run_get]
  rfl

theorem run_store_refused {fault : Fault} (hk : Cache.keyOf config = .error fault)
    (script : Option String) : (store config script).run s = (.error fault, s) := by
  have refused : (keyOf config).run s = (.error fault, s) := by rw [run_keyOf, hk]
  rw [store, run_bind_of_error refused]

theorem run_make {script : String} (hg : generate config = .ok script) :
    (make generate config).run ⟨c, made⟩ = (.ok script, ⟨c, made + 1⟩) := by
  rw [make, hg]
  rfl

theorem run_make_fault {fault : Fault} (hg : generate config = .error fault) :
    (make generate config).run s = (.error fault, s) := by
  rw [make, hg]
  rfl

theorem run_findOrMake_found (h : config.key.Hashable) {script : String}
    (hs : c.script? config.key = some script) :
    (findOrMake generate config).run ⟨c, made⟩ =
      (.ok script, ⟨{ c with
        entries := Recency.touch config.key c.entries
        hits := c.hits + 1 }, made⟩) := by
  rw [findOrMake, run_bind_of_ok (run_lookUp_found h hs)]
  rfl

theorem run_findOrMake_made (h : config.key.Hashable) (hs : c.script? config.key = none)
    {script : String} (hg : generate config = .ok script) :
    (findOrMake generate config).run ⟨c, made⟩ =
      (.ok script, ⟨{ c with
        entries := Recency.store c.capacity.fits config.key (some script) c.entries
        misses := c.misses + 1 }, made + 1⟩) := by
  rw [findOrMake, run_bind_of_ok (run_lookUp_absent h hs), run_bind_of_ok (run_make hg),
    run_bind_of_ok (run_store h _)]
  rfl

/-- The generator comes before the store, so nothing is stored yet when it fails. -/
theorem run_findOrMake_fault (h : config.key.Hashable) (hs : c.script? config.key = none)
    {fault : Fault} (hg : generate config = .error fault) :
    (findOrMake generate config).run ⟨c, made⟩ = (.error fault, ⟨c, made⟩) := by
  rw [findOrMake, run_bind_of_ok (run_lookUp_absent h hs), run_bind_of_error (run_make_fault hg)]

theorem run_findOrMake_refused {fault : Fault} (hk : Cache.keyOf config = .error fault) :
    (findOrMake generate config).run s = (.error fault, s) := by
  rw [findOrMake, run_bind_of_error (run_lookUp_refused hk)]

end Steps

/-- What a use may come to: it fails and changes nothing, or it does all that it has to do. -/
inductive Settled (c : Cache) (made : Nat) : Use → Except Fault Cache.Reply → Counted → Prop
  | failed (u : Use) (fault : Fault) : Settled c made u (.error fault) ⟨c, made⟩
  | absent (config : Config) : Settled c made (.get config) (.ok (.script none)) ⟨c, made⟩
  | got (config : Config) (script : String) :
      Settled c made (.get config) (.ok (.script (some script)))
        ⟨{ c with entries := Recency.touch config.key c.entries }, made⟩
  | stored (config : Config) (script : Option String) :
      Settled c made (.set config script) (.ok .done)
        ⟨{ c with
          entries := Recency.store c.capacity.fits config.key script c.entries }, made⟩
  | found (config : Config) (script : String) :
      Settled c made (.getOrGenerate config) (.ok (.script (some script)))
        ⟨{ c with
          entries := Recency.touch config.key c.entries
          hits := c.hits + 1 }, made⟩
  | made (config : Config) (script : String) :
      Settled c made (.getOrGenerate config) (.ok (.script (some script)))
        ⟨{ c with
          entries := Recency.store c.capacity.fits config.key (some script) c.entries
          misses := c.misses + 1 }, made + 1⟩
  | cleared : Settled c made .clear (.ok (.cleared c.entries.length))
      ⟨{ c with entries := [] }, made⟩
  | read : Settled c made .stats (.ok .done) ⟨c, made⟩

/-- What is replied to a use that ends so. -/
def reply : Except Fault Cache.Reply → Cache.Reply
  | .ok reply => reply
  | .error fault => .failed fault

/-- A use settles, and gives what it gives when it is done as one. -/
theorem perform_settles (generate : Generator) (c : Cache) (made : Nat) (u : Use) :
    ∃ ending after, (perform generate u).run ⟨c, made⟩ = (ending, after) ∧
      Settled c made u ending after ∧ c.use generate u = (reply ending, after.cache) := by
  cases u with
  | stats => exact ⟨_, _, rfl, .read, rfl⟩
  | clear => exact ⟨_, _, rfl, .cleared, rfl⟩
  | get config =>
      by_cases h : config.key.Hashable
      · cases hs : c.script? config.key with
        | some script =>
            refine ⟨_, _, run_bind_of_ok (run_lookUp_found h hs) _, .got config script, ?_⟩
            rw [Cache.use, Cache.get_found h hs]
            rfl
        | none =>
            refine ⟨_, _, run_bind_of_ok (run_lookUp_absent h hs) _, .absent config, ?_⟩
            rw [Cache.use, Cache.get_absent h hs]
            rfl
      · obtain ⟨kind, hk⟩ := Cache.keyOf_of_not_hashable h
        refine ⟨_, _, run_bind_of_error (run_lookUp_refused hk) _, .failed _ _, ?_⟩
        simp only [Cache.use, Cache.get, hk, bind, Except.bind, reply]
  | set config script =>
      by_cases h : config.key.Hashable
      · refine ⟨_, _, run_bind_of_ok (run_store h script) _, .stored config script, ?_⟩
        rw [Cache.use, Cache.set_eq h]
        rfl
      · obtain ⟨kind, hk⟩ := Cache.keyOf_of_not_hashable h
        refine ⟨_, _, run_bind_of_error (run_store_refused hk script) _, .failed _ _, ?_⟩
        simp only [Cache.use, Cache.set, hk, bind, Except.bind, reply]
  | getOrGenerate config =>
      by_cases h : config.key.Hashable
      · cases hs : c.script? config.key with
        | some script =>
            refine ⟨_, _, run_bind_of_ok (run_findOrMake_found h hs) _, .found config script, ?_⟩
            rw [Cache.use, Cache.getOrGenerate_found h hs]
            rfl
        | none =>
            cases hg : generate config with
            | ok script =>
                refine ⟨_, _, run_bind_of_ok (run_findOrMake_made h hs hg) _,
                  .made config script, ?_⟩
                rw [Cache.use, Cache.getOrGenerate_made h hs hg]
                rfl
            | error fault =>
                refine ⟨_, _, run_bind_of_error (run_findOrMake_fault h hs hg) _,
                  .failed _ fault, ?_⟩
                rw [Cache.use, Cache.getOrGenerate_fault h hs hg]
                rfl
      · obtain ⟨kind, hk⟩ := Cache.keyOf_of_not_hashable h
        refine ⟨_, _, run_bind_of_error (run_findOrMake_refused hk) _, .failed _ _, ?_⟩
        simp only [Cache.use, Cache.getOrGenerate, Cache.get, hk, bind, Except.bind, reply]

/-- Whether a use gave a script that was found or made. -/
def served : Use × Except Fault Cache.Reply → Bool
  | (.getOrGenerate _, .ok _) => true
  | _ => false

/-- What there is after a run, each use with the generator that is given to it. -/
def after : Counted → List (Generator × Use) → Counted
  | s, [] => s
  | s, (generate, u) :: rest => after ((perform generate u).run s).2 rest

/-- The uses of a run, each with its ending. -/
def endings : Counted → List (Generator × Use) → List (Use × Except Fault Cache.Reply)
  | _, [] => []
  | s, (generate, u) :: rest =>
    let result := (perform generate u).run s
    (u, result.1) :: endings result.2 rest

/-- Whether a use finds or makes a script, or clears the cache. -/
def serves : Use → Bool
  | .getOrGenerate _ | .clear => true
  | _ => false

section Settling

variable {c : Cache} {made : Nat} {u : Use} {ending : Except Fault Cache.Reply} {s : Counted}

theorem Settled.fault {fault : Fault} (h : Settled c made u (.error fault) s) : s = ⟨c, made⟩ := by
  cases h with
  | failed u fault => rfl

theorem Settled.counters (h : Settled c made u ending s) :
    s.cache.hits + s.cache.misses = c.hits + c.misses + (served (u, ending)).toNat ∧
      s.cache.misses + made = c.misses + s.made := by
  cases h with
  | made config script => exact ⟨by simp only [served, Bool.toNat_true]; omega, by simp only; omega⟩
  | found config script => exact ⟨by simp only [served, Bool.toNat_true]; omega, rfl⟩
  | failed u fault => exact ⟨by cases u <;> rfl, rfl⟩
  | absent | got | stored | cleared | read => exact ⟨rfl, rfl⟩

theorem Settled.counters_eq (h : Settled c made u ending s)
    (other : ∀ config, u ≠ .getOrGenerate config) :
    s.cache.hits = c.hits ∧ s.cache.misses = c.misses := by
  cases h with
  | made config script | found config script => exact absurd rfl (other config)
  | failed | absent | got | stored | cleared | read => exact ⟨rfl, rfl⟩

theorem Settled.length_le (h : Settled c made u ending s) (serves : serves u = true)
    (bound : c.entries.length ≤ c.misses) : s.cache.entries.length ≤ s.cache.misses := by
  cases h with
  | absent | got | stored | read => cases serves
  | failed => exact bound
  | cleared => exact Nat.zero_le _
  | found config script =>
      simp only [Recency.length_touch]
      exact bound
  | made config script =>
      have one := Recency.length_store_le c.capacity.fits config.key (some script) c.entries
      simp only
      omega

end Settling

section Runs

variable {c : Cache} {made : Nat}

theorem cache_after (steps : List (Generator × Use)) :
    (after ⟨c, made⟩ steps).cache = c.run steps := by
  induction steps generalizing c made with
  | nil => rfl
  | cons step rest ih =>
      obtain ⟨ending, next, performed, _, used⟩ := perform_settles step.1 c made step.2
      rw [after, performed, Cache.run, used]
      exact ih

/-- The counters grow by what a run gives, and the misses by what it generates. -/
theorem counters_after (c : Cache) (made : Nat) (steps : List (Generator × Use)) :
    let last := after ⟨c, made⟩ steps
    last.cache.hits + last.cache.misses =
        c.hits + c.misses + (endings ⟨c, made⟩ steps).countP served ∧
      last.cache.misses + made = c.misses + last.made := by
  induction steps generalizing c made with
  | nil => exact ⟨rfl, rfl⟩
  | cons step rest ih =>
      obtain ⟨ending, ⟨next, count⟩, performed, settled, _⟩ :=
        perform_settles step.1 c made step.2
      obtain ⟨total, misses⟩ := settled.counters
      simp only at total misses
      obtain ⟨restTotal, restMisses⟩ := ih next count
      simp only [after, endings, performed, List.countP_cons]
      rw [restTotal, total, Nat.add_assoc, Nat.add_comm (served _).toNat]
      exact ⟨by cases served (step.2, ending) <;> rfl, by omega⟩

theorem length_after_le {steps : List (Generator × Use)}
    (only : ∀ step ∈ steps, serves step.2 = true) (bound : c.entries.length ≤ c.misses) :
    (after ⟨c, made⟩ steps).cache.entries.length ≤ (after ⟨c, made⟩ steps).cache.misses := by
  induction steps generalizing c made with
  | nil => exact bound
  | cons step rest ih =>
      obtain ⟨first, others⟩ := List.forall_mem_cons.mp only
      obtain ⟨ending, next, performed, settled, _⟩ := perform_settles step.1 c made step.2
      rw [after, performed]
      exact ih others (settled.length_le first bound)

end Runs

/-- After any run of a new cache, a use that fails leaves all as it was, only finding or making a
script changes the counters, and clearing tells how many entries there were and leaves none. The
counters together count the scripts that were given, the misses those that were generated. Where
scripts were only found or made, there are no more entries than misses, nor more than there is room
for. -/
theorem failed_uses_change_nothing (size : Int) (steps : List (Generator × Use)) :
    let start : Counted := ⟨.empty (.ofInt size), 0⟩
    let now := after start steps
    now.cache = (Cache.empty (.ofInt size)).run steps ∧
      (∀ generate u, now.cache.use generate u =
        (reply ((perform generate u).run now).1, ((perform generate u).run now).2.cache)) ∧
      (∀ generate u fault next, (perform generate u).run now = (.error fault, next) → next = now) ∧
      (∀ generate u, (∀ config, u ≠ .getOrGenerate config) →
        ((perform generate u).run now).2.cache.hits = now.cache.hits ∧
          ((perform generate u).run now).2.cache.misses = now.cache.misses) ∧
      (∀ generate, ((perform generate .clear).run now).1 = .ok (.cleared now.cache.entries.length) ∧
        ((perform generate .clear).run now).2.cache.entries = []) ∧
      now.cache.hits + now.cache.misses = (endings start steps).countP served ∧
      now.cache.misses = now.made ∧
      ((∀ step ∈ steps, serves step.2 = true) →
        now.cache.entries.length ≤ min (max 1 size).toNat now.cache.misses) := by
  intro start now
  obtain ⟨total, misses⟩ := counters_after (.empty (.ofInt size)) 0 steps
  have cache : now.cache = (Cache.empty (.ofInt size)).run steps := cache_after steps
  refine ⟨cache, ?_, ?_, ?_, fun _ => ⟨rfl, rfl⟩, ?_, ?_, ?_⟩
  · intro generate u
    obtain ⟨ending, next, performed, _, used⟩ := perform_settles generate now.cache now.made u
    rw [performed]
    exact used
  · intro generate u fault next failed
    obtain ⟨_, _, performed, settled, _⟩ := perform_settles generate now.cache now.made u
    cases performed.symm.trans failed
    exact settled.fault
  · intro generate u other
    obtain ⟨_, _, performed, settled, _⟩ := perform_settles generate now.cache now.made u
    rw [performed]
    exact settled.counters_eq other
  · exact total.trans (Nat.zero_add _)
  · exact misses.trans (Nat.zero_add _)
  · intro only
    have room : now.cache.entries.length ≤ (max 1 size).toNat := by
      rw [cache]
      exact (Cache.reflects_run (by omega) steps (Cache.fits_ofInt size)
        Cache.reflects_nil).length_le
    exact Nat.le_min.mpr ⟨room, length_after_le only (Nat.le_refl 0)⟩

/-- Room for one script: it is made, found, and replaced by another one, while a broken generator
and settings that cannot be looked up fail in between. -/
theorem failed_uses_change_nothing_between_two_scripts :
    let plain : Generator := fun _ => .ok "plot(close)"
    let longer : Config := { Config.standard with lookback := .int 200 }
    let nested : Config := { Config.standard with lookback := .list [] }
    let steps : List (Generator × Use) := [(plain, .getOrGenerate .standard),
      (.broken "down", .getOrGenerate longer), (plain, .getOrGenerate nested),
      (.broken "down", .getOrGenerate .standard), (plain, .getOrGenerate longer)]
    let start : Counted := ⟨.empty (.ofInt 1), 0⟩
    let now := after start steps
    (∀ step ∈ steps, serves step.2 = true) ∧ (endings start steps).countP served = 3 ∧
      now.cache.hits + now.cache.misses = 3 ∧ now.cache.misses = now.made ∧ now.made = 2 ∧
      now.cache.entries.length ≤ min 1 now.cache.misses ∧
      ((perform (.broken "down") (.getOrGenerate .standard)).run now).2 = now := by
  intro plain longer nested steps start now
  have only : ∀ step ∈ steps, serves step.2 = true := by
    simp only [steps, List.forall_mem_cons, List.not_mem_nil, false_imp_iff, implies_true, serves,
      and_self]
  have given : (endings start steps).countP served = 3 := by decide +kernel
  have generated : now.made = 2 := by decide +kernel
  have down : ((perform (.broken "down") (.getOrGenerate .standard)).run now).1 =
      .error (.outage "down") := by decide +kernel
  obtain ⟨_, _, failed, _, _, counted, misses, bounded⟩ := failed_uses_change_nothing 1 steps
  exact ⟨only, given, counted.trans given, misses, generated, bounded only,
    failed _ _ _ _ (Prod.ext down rfl)⟩

end Work
end IndicatorDesigner
