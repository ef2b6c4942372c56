import IndicatorDesigner.Cache.Capacity
import IndicatorDesigner.Cache.Recency
import IndicatorDesigner.Config.Key
import IndicatorDesigner.Script.Document

/-!
A cache of generated scripts by settings. When it is full the least recently used entry goes. A use
that fails leaves the cache as it was. Settings are built anew for each use, so a key that holds NaN
is never found again.
-/
namespace IndicatorDesigner

/-- Why a use of the cache fails. -/
inductive Cache.Fault where
  | unhashable (kind : String)
  | script (fault : Script.Fault)
  | outage (message : String)
  deriving DecidableEq, Repr

def Cache.Fault.message : Cache.Fault → String
  | .unhashable kind => s!"unhashable type: '{kind}'"
  | .script fault => fault.message
  | .outage message => message

/-- What makes a script for settings. -/
abbrev Generator := Config → Except Cache.Fault String

def Generator.scripts : Generator := fun c => (Script.generate c).mapError .script

def Generator.broken (message : String) : Generator := fun _ => .error (.outage message)

/-- The kept scripts, least recently used first, and how often one was found or made. An entry
without a script counts as absent when it is looked up. -/
structure Cache where
  capacity : Capacity
  entries : List (Config.Key × Option String)
  hits : Nat
  misses : Nat

namespace Cache

def empty (capacity : Capacity) : Cache := ⟨capacity, [], 0, 0⟩

/-- The key of settings, if it can be looked up. -/
def keyOf (config : Config) : Except Fault Config.Key :=
  match config.key.unhashable? with
  | some kind => .error (.unhashable kind)
  | none => .ok config.key

def script? (c : Cache) (key : Config.Key) : Option String :=
  (Recency.find? key c.entries).bind (·.2)

/-- Looks a script up. Finding one makes its entry the most recent. -/
def get (c : Cache) (config : Config) : Except Fault (Option String × Cache) := do
  let key ← keyOf config
  match c.script? key with
  | some script => .ok (some script, { c with entries := Recency.touch key c.entries })
  | none => .ok (none, c)

def set (c : Cache) (config : Config) (script : Option String) : Except Fault Cache := do
  let key ← keyOf config
  .ok { c with entries := Recency.store c.capacity.fits key script c.entries }

/-- The kept script, or a new one that is kept from now on. -/
def getOrGenerate (generate : Generator) (c : Cache) (config : Config) :
    Except Fault (String × Cache) := do
  match ← c.get config with
  | (some script, c) => .ok (script, { c with hits := c.hits + 1 })
  | (none, c) => do
    let script ← generate config
    let c ← c.set config (some script)
    .ok (script, { c with misses := c.misses + 1 })

def clear (c : Cache) : Cache := { c with entries := [] }

def stats (c : Cache) : List (Chars × Value) :=
  [("entries", .int c.entries.length), ("maxsize", .scalar c.capacity.shown), ("hits", .int c.hits),
   ("misses", .int c.misses)]

/-- A use of the cache. -/
inductive Use where
  | get (config : Config)
  | set (config : Config) (script : Option String)
  | getOrGenerate (config : Config)
  | clear
  | stats

/-- What a use gives. -/
inductive Reply where
  | script (script : Option String)
  | cleared (count : Nat)
  | done
  | failed (fault : Fault)
  deriving DecidableEq, Repr

/-- The reply to one use, and the cache after it. -/
def use (generate : Generator) (c : Cache) : Use → Reply × Cache
  | .get config =>
    match c.get config with
    | .ok (script, c) => (.script script, c)
    | .error fault => (.failed fault, c)
  | .set config script =>
    match c.set config script with
    | .ok c => (.done, c)
    | .error fault => (.failed fault, c)
  | .getOrGenerate config =>
    match getOrGenerate generate c config with
    | .ok (script, c) => (.script (some script), c)
    | .error fault => (.failed fault, c)
  | .clear => (.cleared c.entries.length, c.clear)
  | .stats => (.done, c)

def after (generate : Generator) : Cache → List Use → Cache
  | c, [] => c
  | c, u :: rest => after generate (use generate c u).2 rest

end Cache
end IndicatorDesigner
