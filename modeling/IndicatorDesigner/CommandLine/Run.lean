import IndicatorDesigner.Clipboard
import IndicatorDesigner.CommandLine.Arguments
import IndicatorDesigner.CommandLine.Usage
import IndicatorDesigner.Request.Basic
import IndicatorDesigner.Script.Document
import IndicatorDesigner.Storage.Workspace

/-!
What the command line does: it is judged as a whole, the script is made, and only then anything is
written, printed or copied. A copy that fails never fails the run.
-/
namespace IndicatorDesigner.CommandLine

namespace Arguments

def conflicts (enabled disabled : List Feature) : List Feature :=
  Feature.byName.filter fun f => enabled.contains f && disabled.contains f

/-- The switches that are set, each at its first mention; disabling comes after enabling. -/
def switches (enabled disabled : List Feature) : List (Chars × Value) :=
  (enabled.map fun f => (f.id, true)) ++ (disabled.map fun f => (f.id, false))
    |>.foldl (fun entries (name, on) => Value.put name (.bool on) entries) []

/-- The weights that are set, each at its first mention and with its last value. -/
def weightEntries (weights : List (Feature × Binary64)) : List (Chars × Value) :=
  weights.foldl (fun entries (f, x) => Value.put f.id (.float x) entries) []

/-- A number as a client would submit it; a blank one is an empty list. -/
def submitted {α : Type} (form : α → Value) (number : Option α) : Value :=
  (number.map form).getD (.list [])

def body (a : Arguments) (enabled disabled : List Feature) (weights : List (Feature × Binary64))
    (model : Model) (markerSize : MarkerSize) : List (Chars × Value) :=
  [("lookback", submitted .int a.lookback),
   ("buy_threshold", submitted .float a.buyThreshold),
   ("sell_threshold", submitted .float a.sellThreshold),
   ("features", .object (switches enabled disabled)),
   ("weights", .object (weightEntries weights)),
   ("bias", submitted .float a.bias),
   ("model", .text model.label),
   ("marker_size", .text markerSize.label)]

/-- A choice that may not be blank. -/
def chosen {α : Type} : Option α → Except Stop α
  | some a => .ok a
  | none => .error (.breakOff (.unhashable (Value.list []).kind))

/-- The weights, of which none may be blank; the first one has the given index. -/
def chosenWeights : Nat → List (Option (Feature × Binary64)) →
    Except Stop (List (Feature × Binary64))
  | _, [] => .ok []
  | index, none :: _ => .error (.breakOff (.pairLength index 0))
  | index, some weight :: rest => do .ok (weight :: (← chosenWeights (index + 1) rest))

/-- The settings of a script. A feature that is both enabled and disabled is reported first, unless
a switch is blank. -/
def config (a : Arguments) : Except Stop Config := do
  let enabled ← a.enabled.mapM chosen
  let disabled ← a.disabled.mapM chosen
  if conflicts enabled disabled ≠ [] then
    .error (.fault (.conflict (conflicts enabled disabled)))
  else
    let weights ← chosenWeights 0 a.weights
    let model ← chosen a.model
    let markerSize ← chosen a.markerSize
    match Request.ofEntries (a.body enabled disabled weights model markerSize) with
    | .ok request => .ok request.toConfig
    | .error issues => .error (.fault (.rejected issues))

def targets (a : Arguments) (outputDirectory : Path) : List Path :=
  (a.output.map Path.ofText).toList
    ++ (if a.save then [outputDirectory.child Script.fileName] else [])

end Arguments

inductive Failure where
  | settings (fault : Config.Fault)
  | script (fault : Script.Fault)
  | storage (fault : StorageFault)
  | clipboard (fault : Clipboard.ReportFault)
  deriving Repr

def Failure.message : Failure → String
  | .settings fault => fault.message
  | .script fault => fault.message
  | .storage fault => fault.message
  | .clipboard fault => fault.message

inductive Plan where
  | help
  | refuse (fault : Fault)
  | fail (failure : Failure)
  | emit (script : String) (targets : List Path) (copy : Bool)

def Stop.plan : Stop → Plan
  | .help => .help
  | .fault f => .refuse f
  | .breakOff f => .fail (.settings f)

def plan (words : List String) (outputDirectory : Path) : Plan :=
  match Arguments.ofWords words with
  | .error stop => stop.plan
  | .ok a =>
    match a.config with
    | .error stop => stop.plan
    | .ok config =>
      match Script.generate config with
      | .error fault => .fail (.script fault)
      | .ok script => .emit script (a.targets outputDirectory) a.copy

def refusalText (fault : Fault) : String := usage ++ program ++ ": error: " ++ fault.message ++ "\n"

def writtenEntry (path : Path) : Log.Entry := .info ("[CLI] Wrote " ++ path.toText)

def copyEntries (attempt : Clipboard.Attempt) (script : String) : List Log.Entry :=
  attempt.entries script ++
    match attempt.result with
    | .ok program => [.info s!"[Clipboard] Script copied to clipboard ({program})"]
    | .error fault =>
      [.warning s!"[Clipboard] Copy failed: {fault.message}. Run again with --copy to retry."]

/-- What comes of a run. Either it ends with a code, or it breaks off. -/
structure Outcome where
  ending : Except Failure Nat
  stdout : String
  complaint : String
  entries : List Log.Entry
  workspace : Workspace
  copies : List (Clipboard.Command × String)

/-- What comes of writing a script to files: what was logged, what devices showed, the files, and
what stopped it. -/
structure Writing where
  entries : List Log.Entry
  shown : Shown
  workspace : Workspace
  fault : Option StorageFault

def writeAll (script : String) : Workspace → List Path → Writing
  | w, [] => ⟨[], .nothing, w, none⟩
  | w, path :: rest =>
    match w.write path script with
    | .error fault => ⟨[], .nothing, w, some fault⟩
    | .ok (w, shown) =>
      let later := writeAll script w rest
      { later with
        entries := writtenEntry path :: later.entries
        shown := shown.append later.shown }

structure ClipboardState where
  available : List String
  ending : Clipboard.Ending

def Plan.carryOut (w : Workspace) (clipboard : ClipboardState) : Plan → Outcome
  | .help => ⟨.ok 0, CommandLine.help, "", [], w, []⟩
  | .refuse fault => ⟨.ok 2, "", refusalText fault, [], w, []⟩
  | .fail failure => ⟨.error failure, "", "", [], w, []⟩
  | .emit script targets copy =>
    let writing := writeAll script w targets
    let complaint := writing.shown.errors
    match writing.fault with
    | some fault =>
      ⟨.error (.storage fault), writing.shown.output, complaint, writing.entries, writing.workspace,
        []⟩
    | none =>
      let stdout := writing.shown.output ++ if targets.isEmpty then script else ""
      if copy then
        let attempt := Clipboard.copy clipboard.available clipboard.ending
        let copies := attempt.command.toList.map fun c => (c, script)
        match attempt.result with
        | .error (.unreported fault) =>
          ⟨.error (.clipboard fault), stdout, complaint, writing.entries, writing.workspace, copies⟩
        | _ =>
          ⟨.ok 0, stdout, complaint, writing.entries ++ copyEntries attempt script,
            writing.workspace, copies⟩
      else ⟨.ok 0, stdout, complaint, writing.entries, writing.workspace, []⟩

def run (words : List String) (outputDirectory : Path) (w : Workspace)
    (clipboard : ClipboardState) : Outcome := (plan words outputDirectory).carryOut w clipboard

end IndicatorDesigner.CommandLine
