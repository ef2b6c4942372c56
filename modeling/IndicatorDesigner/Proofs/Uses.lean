import IndicatorDesigner.Cache.Basic
import IndicatorDesigner.Proofs.Sameness

/-!
What each use of a cache does: which script it gives, and which entry it moves to the end. Settings
that cannot be looked up are refused before anything else happens.
-/
namespace IndicatorDesigner.Cache

theorem keyOf_of_hashable {config : Config} (h : config.key.Hashable) :
    keyOf config = .ok config.key := by
  rw [keyOf, (Config.Key.unhashable?_eq_none_iff _).mpr h]

theorem keyOf_of_not_hashable {config : Config} (h : ¬config.key.Hashable) :
    ∃ kind, keyOf config = .error (.unhashable kind) := by
  rw [keyOf]
  cases hu : config.key.unhashable? with
  | none => exact absurd ((Config.Key.unhashable?_eq_none_iff _).mp hu) h
  | some kind => exact ⟨kind, rfl⟩

theorem script?_eq_some_iff {c : Cache} {key : Config.Key} {script : String} :
    c.script? key = some script ↔
      ∃ kept, Recency.find? key c.entries = some (kept, some script) := by
  rw [script?, Option.bind_eq_some_iff]
  constructor
  · rintro ⟨⟨kept, value⟩, hf, rfl⟩
    exact ⟨kept, hf⟩
  · rintro ⟨kept, hf⟩
    exact ⟨_, hf, rfl⟩

variable {c : Cache} {config : Config} {generate : Generator}

theorem get_found (h : config.key.Hashable) {script : String}
    (hs : c.script? config.key = some script) :
    c.get config = .ok (some script, { c with entries := Recency.touch config.key c.entries }) := by
  simp only [get, keyOf_of_hashable h, hs, bind, Except.bind]

theorem get_absent (h : config.key.Hashable) (hs : c.script? config.key = none) :
    c.get config = .ok (none, c) := by
  simp only [get, keyOf_of_hashable h, hs, bind, Except.bind]

theorem set_eq (h : config.key.Hashable) (script : Option String) :
    c.set config script =
      .ok { c with entries := Recency.store c.capacity.fits config.key script c.entries } := by
  simp only [set, keyOf_of_hashable h, bind, Except.bind]

theorem get_refused (h : ¬config.key.Hashable) :
    ∃ kind, c.get config = .error (.unhashable kind) := by
  obtain ⟨kind, hk⟩ := keyOf_of_not_hashable h
  exact ⟨kind, by simp only [get, hk, bind, Except.bind]⟩

theorem set_refused (h : ¬config.key.Hashable) (script : Option String) :
    ∃ kind, c.set config script = .error (.unhashable kind) := by
  obtain ⟨kind, hk⟩ := keyOf_of_not_hashable h
  exact ⟨kind, by simp only [set, hk, bind, Except.bind]⟩

theorem getOrGenerate_refused (generate : Generator) (h : ¬config.key.Hashable) :
    ∃ kind, getOrGenerate generate c config = .error (.unhashable kind) := by
  obtain ⟨kind, hk⟩ := get_refused (c := c) h
  exact ⟨kind, by simp only [getOrGenerate, hk, bind, Except.bind]⟩

theorem getOrGenerate_found (h : config.key.Hashable) {script : String}
    (hs : c.script? config.key = some script) :
    getOrGenerate generate c config =
      .ok (script, { c with
        entries := Recency.touch config.key c.entries
        hits := c.hits + 1 }) := by
  simp only [getOrGenerate, get_found h hs, bind, Except.bind]

theorem getOrGenerate_made (h : config.key.Hashable) (hs : c.script? config.key = none)
    {script : String} (hg : generate config = .ok script) :
    getOrGenerate generate c config =
      .ok (script, { c with
        entries := Recency.store c.capacity.fits config.key (some script) c.entries
        misses := c.misses + 1 }) := by
  simp only [getOrGenerate, get_absent h hs, hg, set_eq h, bind, Except.bind]

theorem getOrGenerate_fault (h : config.key.Hashable) (hs : c.script? config.key = none)
    {fault : Fault} (hg : generate config = .error fault) :
    getOrGenerate generate c config = .error fault := by
  simp only [getOrGenerate, get_absent h hs, hg, bind, Except.bind]

end IndicatorDesigner.Cache
