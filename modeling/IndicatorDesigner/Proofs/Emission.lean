import IndicatorDesigner.Proofs.FrontEnds
import IndicatorDesigner.Proofs.Storage

/-!
A run of the command line either puts its script wherever it was asked for, or puts it nowhere.
Copying comes last and changes nothing of that, whatever the clipboard does.
-/
namespace IndicatorDesigner

/-- An ending that can occur and be reported. An exit with a code reports failure. -/
structure Clipboard.Ending.Occurs (ending : Clipboard.Ending) : Prop where
  failed : ∀ stderr, ending ≠ .exit 0 stderr
  reported : ending.reportFault? = none

/-- A system error whose number has too many digits to be written is not reported. -/
theorem Clipboard.reportFault?_of_long {n : ℕ} (h : 10 ^ Numeral.maxDigits ≤ n) (text : String) :
    Ending.reportFault? (.systemError [.int n, .text text]) = some .tooLong := by
  have digits : ¬digitCount n ≤ Numeral.maxDigits := by
    rw [digitCount_le_iff (by decide)]
    exact Nat.not_lt.mpr h
  have long : (Value.int n).tooLong = true := decide_eq_true (Nat.not_le.mp digits)
  simp only [Ending.reportFault?, waitFault?, wordingOf, Wording.parts, List.any_cons, long,
    Bool.true_or, if_true, Option.none_or]

namespace CommandLine

/-- The options of a command line with their values, from left to right. -/
def options : List Token → List (Flag × String)
  | [] => []
  | .option flag long attached :: rest =>
    match Cluster.ofOption flag long attached with
    | .error _ => []
    | .ok cluster =>
      match cluster.waiting, rest with
      | none, rest => cluster.complete ++ options rest
      | some waiting, .argument word :: rest =>
        cluster.complete ++ (waiting, word) :: options rest
      | some _, _ => []
  | _ :: rest => options rest

def lastValue (flag : Flag) (given : List (Flag × String)) : Option String :=
  (given.filter (·.1 = flag)).getLast?.map (·.2)

/-- The file that the last output names. Two dashes that are attached to it name none. -/
def outputFile? (given : List (Flag × String)) : Option String :=
  (lastValue .output given).filter (· ≠ "--")

/-- The files that options ask for, in order: the one they name, and the one of the script's own
name. -/
def requested (given : List (Flag × String)) (directory : Path) : List Path :=
  ((outputFile? given).map Path.ofText).toList ++
    if given.any (·.1 = .save) then [directory.child Script.fileName] else []

/-- The files that a command line asks for. -/
def requestedBy (words : List String) (directory : Path) : List Path :=
  match Token.ofWords words with
  | .ok tokens => requested (options tokens) directory
  | .error _ => []

theorem lastValue_cons (flag : Flag) (option : Flag × String) (rest : List (Flag × String)) :
    lastValue flag (option :: rest) =
      (lastValue flag rest).or (if option.1 = flag then some option.2 else none) := by
  rw [lastValue, lastValue, List.filter_cons]
  by_cases h : option.1 = flag <;> simp [h, List.getLast?_cons]

namespace Arguments

variable {a b : Arguments}

theorem take_spec {flag : Flag} {value : String} (h : a.take flag value = .ok b) :
    b.output = (if flag = .output then (some value).filter (· ≠ "--") else a.output) ∧
      b.save = (a.save || flag = .save) ∧ b.copy = (a.copy || flag = .copy) := by
  cases flag with
  | help => cases h
  | save | copy => cases h; simp
  | output =>
      obtain ⟨output, read, h⟩ := ok_of_bind h
      cases h
      have named : output = (some value).filter (· ≠ "--") := by
        unfold unlessBlank at read
        split at read
        · rename_i blank
          subst blank
          exact (Except.ok.inj read).symm
        · rename_i plain
          rw [Option.filter_some_pos (by simpa using plain)]
          exact (Except.ok.inj read).symm
      simp [named]
  | _ =>
      obtain ⟨_, _, h⟩ := ok_of_bind h
      cases h
      simp

theorem takeAll_append (a : Arguments) (first second : List (Flag × String)) :
    a.takeAll (first ++ second) = (a.takeAll first).bind (·.takeAll second) := by
  induction first generalizing a with
  | nil => rfl
  | cons option rest ih =>
      obtain ⟨flag, value⟩ := option
      rw [List.cons_append, takeAll, takeAll]
      cases a.take flag value with
      | error stop => rfl
      | ok b => exact ih b

theorem takeAll_spec {given : List (Flag × String)} (h : a.takeAll given = .ok b) :
    b.output = (if (lastValue .output given).isSome then outputFile? given else a.output) ∧
      b.save = (a.save || given.any (·.1 = .save)) ∧
      b.copy = (a.copy || given.any (·.1 = .copy)) := by
  induction given generalizing a with
  | nil => cases h; simp [lastValue]
  | cons option rest ih =>
      obtain ⟨next, taken, h⟩ := ok_of_bind h
      obtain ⟨output, save, copy⟩ := take_spec taken
      obtain ⟨lastOutput, anySave, anyCopy⟩ := ih h
      refine ⟨?_, by simp [anySave, save, Bool.or_assoc], by simp [anyCopy, copy, Bool.or_assoc]⟩
      rw [lastOutput, output, outputFile?, outputFile?, lastValue_cons]
      cases lastValue .output rest <;> by_cases named : option.1 = .output <;> simp [named]

end Arguments

theorem takeAll_options {tokens : List Token} {a b : Arguments} {extra : List String}
    (h : takeTokens a tokens = .ok (b, extra)) : a.takeAll (options tokens) = .ok b := by
  induction a, tokens using takeTokens.induct generalizing b extra with
  | case1 a => cases h; rfl
  | case2 a word rest ih | case3 a rest ih | case4 a word rest ih =>
      obtain ⟨⟨c, more⟩, taken, h⟩ := ok_of_bind h
      cases h
      exact ih taken
  | case5 a flag long attached rest fault wrong =>
      rw [takeTokens, wrong] at h
      cases h
  | case6 a flag long attached cluster formed rest complete ih =>
      simp only [takeTokens, formed, complete] at h
      obtain ⟨c, taken, h⟩ := ok_of_bind h
      simp only [options, formed, complete]
      rw [Arguments.takeAll_append, taken]
      exact ih c h
  | case7 a flag long attached cluster formed waiting word rest waits ih =>
      simp only [takeTokens, formed, waits] at h
      obtain ⟨c, taken, h⟩ := ok_of_bind h
      simp only [options, formed, waits]
      rw [← List.singleton_append, ← List.append_assoc, Arguments.takeAll_append, taken]
      exact ih c h
  | case8 a flag long attached rest cluster formed waiting waits other =>
      cases rest with
      | nil =>
          simp only [takeTokens, formed, waits] at h
          cases h
      | cons token rest =>
          cases token with
          | argument word => exact absurd rfl (other word rest)
          | separator | option | unknown =>
              simp only [takeTokens, formed, waits] at h
              cases h

section Copied

/-- The same settings, to be copied as well. -/
def Arguments.copied (a : Arguments) : Arguments := { a with copy := true }

theorem Arguments.take_copied (a : Arguments) (flag : Flag) (value : String) :
    a.copied.take flag value = (a.take flag value).map copied := by
  cases flag <;> simp only [take, bind, Except.bind] <;> first | rfl | (split <;> rfl)

theorem Arguments.takeAll_copied (a : Arguments) (given : List (Flag × String)) :
    a.copied.takeAll given = (a.takeAll given).map copied := by
  induction given generalizing a with
  | nil => rfl
  | cons option rest ih =>
      obtain ⟨flag, value⟩ := option
      rw [takeAll, takeAll, take_copied]
      cases a.take flag value with
      | error stop => rfl
      | ok b => exact ih b

theorem takeTokens_copied (a : Arguments) (tokens : List Token) :
    takeTokens a.copied tokens =
      (takeTokens a tokens).map fun taken => (taken.1.copied, taken.2) := by
  induction a, tokens using takeTokens.induct with
  | case1 a => rfl
  | case2 a word rest ih | case3 a rest ih | case4 a word rest ih =>
      rw [takeTokens, takeTokens, ih]
      cases takeTokens a rest <;> rfl
  | case5 a flag long attached rest fault wrong =>
      rw [takeTokens, takeTokens, wrong]
      rfl
  | case6 a flag long attached cluster formed rest complete ih =>
      simp only [takeTokens, formed, complete, Arguments.takeAll_copied]
      cases a.takeAll cluster.complete with
      | error stop => rfl
      | ok b => exact ih b
  | case7 a flag long attached cluster formed waiting word rest waits ih =>
      simp only [takeTokens, formed, waits, Arguments.takeAll_copied]
      cases a.takeAll (cluster.complete ++ [(waiting, word)]) with
      | error stop => rfl
      | ok b => exact ih b
  | case8 a flag long attached rest cluster formed waiting waits other =>
      cases rest with
      | nil => simp only [takeTokens, formed, waits, Except.map]
      | cons token rest =>
          cases token with
          | argument word => exact absurd rfl (other word rest)
          | separator | option | unknown => simp only [takeTokens, formed, waits, Except.map]

theorem ofWords_copy (words : List String) :
    Token.ofWords ("--copy" :: words) =
      (Token.ofWords words).map (Token.option .copy true none :: ·) := by
  have first : Token.ofWord "--copy" = .ok (.option .copy true none) := by decide
  rw [Token.ofWords, if_neg (by decide), first]
  cases Token.ofWords words <;> rfl

theorem Arguments.ofWords_copy (words : List String) :
    ofWords ("--copy" :: words) = (ofWords words).map copied := by
  rw [ofWords, ofWords, CommandLine.ofWords_copy]
  cases Token.ofWords words with
  | error a => rfl
  | ok tokens =>
      have shifted : takeTokens standard (Token.option .copy true none :: tokens) =
          takeTokens standard.copied tokens := rfl
      simp only [Except.map, Except.mapError, bind, Except.bind, shifted, takeTokens_copied]
      cases takeTokens standard tokens with
      | error stop => rfl
      | ok taken =>
          obtain ⟨b, extra⟩ := taken
          cases extra <;> rfl

/-- The same plan, with a copy. -/
def Plan.copied : Plan → Plan
  | .emit script targets _ => .emit script targets true
  | todo => todo

theorem Arguments.plan_copied (a : Arguments) (directory : Path) :
    a.copied.plan directory = (a.plan directory).copied := by
  have same : a.copied.config = a.config := rfl
  rw [plan, plan, same]
  cases a.config with
  | error stop => cases stop <;> rfl
  | ok config => cases made : Script.generate config <;> simp only [made] <;> rfl

theorem plan_copy (words : List String) (directory : Path) :
    plan ("--copy" :: words) directory = (plan words directory).copied := by
  cases read : Arguments.ofWords words with
  | error stop =>
      rw [plan, plan, Arguments.ofWords_copy, read]
      cases stop <;> rfl
  | ok a =>
      have copied : Arguments.ofWords ("--copy" :: words) = .ok a.copied := by
        rw [Arguments.ofWords_copy, read]
        rfl
      rw [plan_of_ofWords read, plan_of_ofWords copied, Arguments.plan_copied]

end Copied

namespace Outcome

/-- The clipboard commands that were run, with the bytes they were fed. -/
def fed (o : Outcome) : List (Clipboard.Command × ByteArray) :=
  o.copies.map fun copy => (copy.1, copy.2.toUTF8)

def warnings (o : Outcome) : Nat := o.entries.countP (·.level = Log.Level.warning)

/-- Two outcomes that differ at most in what was copied and logged. -/
structure Alike (o p : Outcome) : Prop where
  ending : p.ending = o.ending
  stdout : p.stdout = o.stdout
  complaint : p.complaint = o.complaint
  workspace : p.workspace = o.workspace

end Outcome

/-- A script is in the files that were asked for, unless a device stands there, or else on the
standard output, and it was copied if that was asked for, too. -/
structure Emitted (given : List (Flag × String)) (directory : Path) (clipboard : ClipboardState)
    (script : String) (o : Outcome) : Prop where
  stdout : (∀ path ∈ requested given directory, o.workspace.device? path ≠ some .output) →
    o.stdout = if requested given directory = [] then script else ""
  files : ∀ path ∈ requested given directory, o.workspace.device? path = none →
    o.workspace.text? path = some script
  fed : o.fed = if given.any (·.1 = .copy) then
      ((Clipboard.commands.find? fun c => clipboard.available.contains c.program).toList.map
        fun c => (c, script.toUTF8))
    else []
  warnings : o.warnings ≤ 1
  quiet : o.warnings = 0 ↔ given.any (·.1 = .copy) →
    (∃ c ∈ Clipboard.commands, c.program ∈ clipboard.available) ∧ clipboard.ending = .success

/-- What comes of writing a script to files: nothing is shown on the standard output unless it is
one of them, and without a fault each of them received the script. -/
structure Written (script : String) (w : Workspace) (targets : List Path) (writing : Writing) :
    Prop where
  keeps : w.Keeps script writing.workspace
  silent : (∀ path ∈ targets, writing.workspace.device? path ≠ some .output) →
    writing.shown.output = ""
  received : writing.fault = none →
    ∀ path ∈ targets, ∃ shown, writing.workspace.Received path script shown

section Emission

variable {script : String} {w : Workspace} {targets : List Path}

theorem writeAll_spec (sound : w.Sound) : Written script w targets (writeAll script w targets) := by
  induction targets generalizing w with
  | nil => exact ⟨.refl script w, fun _ => rfl, nofun⟩
  | cons path rest ih =>
      rw [writeAll]
      cases written : w.write path script with
      | error fault => exact ⟨.refl script w, fun _ => rfl, nofun⟩
      | ok result =>
          obtain ⟨next, shown⟩ := result
          obtain ⟨soundNext, keeps, received⟩ := Workspace.write_spec sound written
          obtain ⟨keepsRest, silent, receivedRest⟩ := ih soundNext
          have stays := keepsRest.received soundNext received
          refine ⟨keeps.trans keepsRest, ?_, ?_⟩
          · intro other
            obtain ⟨here, others⟩ := List.forall_mem_cons.mp other
            simp only [Shown.append, stays.output_eq here, silent others, String.append_empty]
          · intro faultless
            exact List.forall_mem_cons.mpr ⟨⟨shown, stays⟩, receivedRest faultless⟩

theorem warnings_writeAll (script : String) (w : Workspace) (targets : List Path) :
    (writeAll script w targets).entries.countP (·.level = Log.Level.warning) = 0 := by
  induction targets generalizing w with
  | nil => rfl
  | cons path rest ih =>
      rw [writeAll]
      cases w.write path script with
      | error fault => rfl
      | ok result => exact ih result.1

/-- A copy that is tried is reported once, as a success or as a warning. -/
theorem warnings_copyEntries (attempt : Clipboard.Attempt) (script : String) :
    (copyEntries attempt script).countP (·.level = Log.Level.warning) =
      if attempt.result.isOk then 0 else 1 := by
  rw [copyEntries, Clipboard.Attempt.entries]
  cases attempt.result <;> rfl

theorem isOk_result_iff (c : Clipboard.Command) (ending : Clipboard.Ending) :
    (c.result ending).isOk = true ↔ ending = .success := by
  rw [Clipboard.Command.result]
  cases fault : ending.reportFault? with
  | none => cases ending <;> simp [Clipboard.Command.outcome, Except.isOk, Except.toBool]
  | some fault =>
      refine ⟨nofun, ?_⟩
      rintro rfl
      cases fault

theorem isOk_copy_iff {clipboard : ClipboardState} :
    (Clipboard.copy clipboard.available clipboard.ending).result.isOk = true ↔
      (∃ c ∈ Clipboard.commands, c.program ∈ clipboard.available) ∧
        clipboard.ending = .success := by
  rw [Clipboard.copy]
  cases found : Clipboard.findCommand? clipboard.available with
  | none =>
      have absent := List.find?_eq_none.mp found
      refine ⟨nofun, fun ⟨⟨c, member, available⟩, _⟩ => ?_⟩
      exact absurd (List.contains_iff_mem.mpr available) (absent c member)
  | some c =>
      have there : ∃ c ∈ Clipboard.commands, c.program ∈ clipboard.available :=
        ⟨c, List.mem_of_find?_eq_some found, by simpa using List.find?_some found⟩
      exact (isOk_result_iff c clipboard.ending).trans ⟨fun success => ⟨there, success⟩, And.right⟩

theorem reported_copy {clipboard : ClipboardState} (occurs : clipboard.ending.Occurs)
    (fault : Clipboard.ReportFault) :
    (Clipboard.copy clipboard.available clipboard.ending).result ≠ .error (.unreported fault) := by
  rw [Clipboard.copy]
  cases Clipboard.findCommand? clipboard.available with
  | none => exact nofun
  | some c =>
      simp only [Clipboard.Command.result, occurs.reported]
      cases clipboard.ending <;> exact nofun

/-- What comes of a script that could be written wherever it was asked for. -/
theorem carryOut_emit {clipboard : ClipboardState} (occurs : clipboard.ending.Occurs)
    (faultless : (writeAll script w targets).fault = none) (copy : Bool) :
    (Plan.emit script targets copy).carryOut w clipboard =
      let writing := writeAll script w targets
      let stdout := writing.shown.output ++ if targets.isEmpty then script else ""
      if copy then
        let attempt := Clipboard.copy clipboard.available clipboard.ending
        ⟨.ok 0, stdout, writing.shown.errors, writing.entries ++ copyEntries attempt script,
          writing.workspace, attempt.command.toList.map fun c => (c, script)⟩
      else ⟨.ok 0, stdout, writing.shown.errors, writing.entries, writing.workspace, []⟩ := by
  simp only [Plan.carryOut, faultless]
  split
  · split
    · rename_i fault unreported
      exact absurd unreported (reported_copy occurs fault)
    · rfl
  · rfl

end Emission

section Plans

variable {words : List String} {directory : Path}

theorem chosen_ne_help {α : Type} (a : Option α) : Arguments.chosen a ≠ .error .help := by
  cases a <;> exact nofun

theorem mapM_chosen_ne_help {α : Type} (items : List (Option α)) :
    items.mapM Arguments.chosen ≠ .error .help := by
  induction items with
  | nil => exact nofun
  | cons a rest ih =>
      intro h
      rw [List.mapM_cons] at h
      rcases error_of_bind h with h | ⟨_, _, h⟩
      · exact chosen_ne_help a h
      · rcases error_of_bind h with h | ⟨_, _, h⟩
        · exact ih h
        · cases h

theorem chosenWeights_ne_help (index : Nat) (weights : List (Option (Feature × Binary64))) :
    Arguments.chosenWeights index weights ≠ .error .help := by
  induction weights generalizing index with
  | nil => exact nofun
  | cons weight rest ih =>
      cases weight with
      | none => exact nofun
      | some weight =>
          intro h
          rcases error_of_bind h with h | ⟨_, _, h⟩
          · exact ih (index + 1) h
          · cases h

/-- Help is only given where the options ask for it. -/
theorem Arguments.config_ne_help (a : Arguments) : a.config ≠ .error .help := by
  intro h
  rcases error_of_bind h with h | ⟨enabled, _, h⟩
  · exact mapM_chosen_ne_help _ h
  rcases error_of_bind h with h | ⟨disabled, _, h⟩
  · exact mapM_chosen_ne_help _ h
  split at h
  · cases h
  rcases error_of_bind h with h | ⟨weights, _, h⟩
  · exact chosenWeights_ne_help _ _ h
  rcases error_of_bind h with h | ⟨model, _, h⟩
  · exact chosen_ne_help _ h
  rcases error_of_bind h with h | ⟨markerSize, _, h⟩
  · exact chosen_ne_help _ h
  split at h <;> cases h

theorem plan_ne_help (asked : Arguments.ofWords words ≠ .error .help) :
    plan words directory ≠ .help := by
  intro help
  cases read : Arguments.ofWords words with
  | error stop =>
      rw [plan, read] at help
      cases stop with
      | help => exact asked read
      | fault | breakOff => cases help
  | ok a =>
      rw [plan_of_ofWords read, Arguments.plan] at help
      cases built : a.config with
      | error stop =>
          rw [built] at help
          cases stop with
          | help => exact a.config_ne_help built
          | fault | breakOff => cases help
      | ok config =>
          cases made : Script.generate config <;> simp only [built, made] at help <;> cases help

/-- The options that were read say where the script goes. -/
theorem ofWords_spec {a : Arguments} (h : Arguments.ofWords words = .ok a) :
    ∃ tokens, Token.ofWords words = .ok tokens ∧ a.output = outputFile? (options tokens) ∧
      a.save = (options tokens).any (·.1 = .save) ∧
      a.copy = (options tokens).any (·.1 = .copy) := by
  obtain ⟨tokens, sorted, h⟩ := ok_of_bind h
  obtain ⟨⟨b, extra⟩, taken, h⟩ := ok_of_bind h
  cases extra with
  | cons word extra => cases h
  | nil =>
      cases h
      obtain ⟨output, save, copy⟩ := Arguments.takeAll_spec (takeAll_options taken)
      refine ⟨tokens, ok_of_mapError sorted, ?_, by simpa [Arguments.standard] using save,
        by simpa [Arguments.standard] using copy⟩
      rw [output, outputFile?]
      cases lastValue .output (options tokens) <;> rfl

theorem emit_of_plan {script : String} {targets : List Path} {copy : Bool}
    (h : plan words directory = .emit script targets copy) :
    ∃ a config, Arguments.ofWords words = .ok a ∧ a.config = .ok config ∧
      Script.generate config = .ok script ∧ targets = a.targets directory ∧ copy = a.copy := by
  cases read : Arguments.ofWords words with
  | error stop =>
      rw [plan, read] at h
      cases stop <;> cases h
  | ok a =>
      rw [plan_of_ofWords read, Arguments.plan] at h
      cases built : a.config with
      | error stop =>
          rw [built] at h
          cases stop <;> cases h
      | ok config =>
          cases made : Script.generate config with
          | error fault =>
              simp only [built, made] at h
              cases h
          | ok script =>
              simp only [built, made] at h
              cases h
              exact ⟨a, config, rfl, built, made, rfl, rfl⟩

end Plans

section Outcomes

variable {script : String} {w : Workspace} {targets : List Path} {entries : List Log.Entry}
  {clipboard other : ClipboardState} {words : List String} {directory : Path}

theorem Outcome.Alike.refl (o : Outcome) : o.Alike o := ⟨rfl, rfl, rfl, rfl⟩

/-- A script ends up in the same places, whether or not it is copied and whatever comes of that. -/
theorem emit_alike (occurs : clipboard.ending.Occurs) (also : other.ending.Occurs)
    (copy again : Bool) :
    ((Plan.emit script targets copy).carryOut w clipboard).Alike
      ((Plan.emit script targets again).carryOut w other) := by
  cases written : (writeAll script w targets).fault with
  | none =>
      rw [carryOut_emit occurs written, carryOut_emit also written]
      cases copy <;> cases again <;> exact ⟨rfl, rfl, rfl, rfl⟩
  | some fault =>
      simp only [Plan.carryOut, written]
      exact .refl _

theorem workspace_emit (copy : Bool) :
    ((Plan.emit script targets copy).carryOut w clipboard).workspace =
      (writeAll script w targets).workspace := by
  cases written : (writeAll script w targets).fault with
  | some fault => simp only [Plan.carryOut, written]
  | none =>
      simp only [Plan.carryOut, written]
      cases copy with
      | false => rfl
      | true =>
          rw [if_pos rfl]
          split <;> rfl

theorem sameDevices_carryOut (sound : w.Sound) (todo : Plan) :
    w.SameDevices (todo.carryOut w clipboard).workspace := by
  cases todo with
  | emit script targets copy =>
      rw [workspace_emit]
      exact (writeAll_spec sound).keeps.sameDevices
  | help | refuse | fail => exact (Workspace.Keeps.refl "" w).sameDevices

theorem carryOut_alike (occurs : clipboard.ending.Occurs) (also : other.ending.Occurs)
    (todo : Plan) : (todo.carryOut w clipboard).Alike (todo.carryOut w other) ∧
      (todo.carryOut w clipboard).Alike (todo.copied.carryOut w other) := by
  cases todo with
  | emit script targets copy => exact ⟨emit_alike occurs also _ _, emit_alike occurs also _ _⟩
  | help | refuse | fail => exact ⟨.refl _, .refl _⟩

theorem Outcome.fed_eq (o : Outcome) {command : Option Clipboard.Command} {script : String}
    (h : o.copies = command.toList.map fun c => (c, script)) :
    o.fed = command.toList.map fun c => (c, script.toUTF8) := by
  rw [fed, h, List.map_map]
  rfl

/-- What is written is what the options ask for. -/
theorem targets_eq {given : List (Flag × String)} {a : Arguments}
    (output : a.output = outputFile? given) (save : a.save = given.any (·.1 = .save)) :
    a.targets directory = requested given directory := by
  rw [Arguments.targets, output, save, requested]

theorem command_copy (available : List String) (ending : Clipboard.Ending) :
    (Clipboard.copy available ending).command =
      Clipboard.commands.find? fun c => available.contains c.program := by
  simp only [Clipboard.copy, Clipboard.findCommand?]
  cases Clipboard.commands.find? fun c => available.contains c.program <;> rfl

/-- A copy is the only thing that warns after all files are written, and only if it fails. -/
theorem warnings_after_copy {attempt : Clipboard.Attempt}
    (unwarned : entries.countP (·.level = Log.Level.warning) = 0) :
    (entries ++ copyEntries attempt script).countP (·.level = Log.Level.warning) ≤ 1 ∧
      ((entries ++ copyEntries attempt script).countP (·.level = Log.Level.warning) = 0 ↔
        attempt.result.isOk = true) := by
  rw [List.countP_append, unwarned, Nat.zero_add, warnings_copyEntries]
  cases attempt.result.isOk <;> decide

theorem emitted_of_written {given : List (Flag × String)} {copy : Bool} (sound : w.Sound)
    (occurs : clipboard.ending.Occurs) (copied : copy = given.any (·.1 = .copy))
    (faultless : (writeAll script w (requested given directory)).fault = none) :
    Emitted given directory clipboard script
      ((Plan.emit script (requested given directory) copy).carryOut w clipboard) := by
  obtain ⟨_, silent, received⟩ := @writeAll_spec script w (requested given directory) sound
  have unwarned := warnings_writeAll script w (requested given directory)
  have files : ∀ path ∈ requested given directory,
      (writeAll script w (requested given directory)).workspace.device? path = none →
        (writeAll script w (requested given directory)).workspace.text? path = some script := by
    intro path member noDevice
    obtain ⟨_, received⟩ := received faultless path member
    exact received.text?_eq noDevice
  have stdout : (∀ path ∈ requested given directory,
      (writeAll script w (requested given directory)).workspace.device? path ≠ some .output) →
        ((writeAll script w (requested given directory)).shown.output ++
          if (requested given directory).isEmpty then script else "") =
            if requested given directory = [] then script else "" := by
    intro other
    simp only [silent other, String.empty_append, List.isEmpty_iff]
  rw [carryOut_emit occurs faultless]
  cases copy with
  | false =>
      exact ⟨stdout, files, by simp [Outcome.fed, ← copied], by simp [Outcome.warnings, unwarned],
        by simp [Outcome.warnings, unwarned, ← copied]⟩
  | true =>
      obtain ⟨once, silent⟩ := @warnings_after_copy script _ _ unwarned
      refine ⟨stdout, files, ?_, once, ?_⟩
      · rw [if_pos copied.symm, ← command_copy _ clipboard.ending]
        exact Outcome.fed_eq _ rfl
      · refine silent.trans (isOk_copy_iff.trans ?_)
        exact ⟨fun success _ => success, fun success => success copied.symm⟩

/-- What may come of a run: it is refused, it fails, or it puts its script where it should be. -/
theorem run_cases (directory : Path) (sound : w.Sound) (occurs : clipboard.ending.Occurs)
    (asked : Arguments.ofWords words ≠ .error .help) :
    let o := run words directory w clipboard
    (∃ fault, o = ⟨.ok 2, "", refusalText fault, [], w, []⟩) ∨
    (∃ failure, o.ending = .error failure ∧ o.copies = [] ∧
      ((∀ path ∈ requestedBy words directory, o.workspace.device? path ≠ some .output) →
        o.stdout = "")) ∨
    o.ending = .ok 0 ∧
      ∃ tokens a config script, Token.ofWords words = .ok tokens ∧
        Arguments.ofWords words = .ok a ∧ a.config = .ok config ∧
        Script.generate config = .ok script ∧
        Emitted (options tokens) directory clipboard script o := by
  intro o
  have ran : o = (plan words directory).carryOut w clipboard := rfl
  cases todo : plan words directory with
  | help => exact absurd todo (plan_ne_help asked)
  | refuse fault =>
      rw [todo] at ran
      exact .inl ⟨fault, ran⟩
  | fail failure =>
      rw [todo] at ran
      rw [ran]
      exact .inr (.inl ⟨failure, rfl, rfl, fun _ => rfl⟩)
  | emit script targets copy =>
      obtain ⟨a, config, read, built, made, rfl, rfl⟩ := emit_of_plan todo
      obtain ⟨tokens, sorted, output, save, copy⟩ := ofWords_spec read
      have asks : requestedBy words directory = requested (options tokens) directory := by
        rw [requestedBy, sorted]
      rw [todo, targets_eq output save] at ran
      rw [ran, asks]
      cases written : (writeAll script w (requested (options tokens) directory)).fault with
      | none =>
          refine .inr (.inr ⟨?_, tokens, a, config, script, sorted, read, built, made,
            emitted_of_written sound occurs copy written⟩)
          rw [carryOut_emit occurs written]
          cases a.copy <;> rfl
      | some fault =>
          refine .inr (.inl ⟨.storage fault, ?_⟩)
          simp only [Plan.carryOut, written]
          exact ⟨trivial, trivial, (writeAll_spec sound).silent⟩

/-- A run that is asked for no help either fails before anything is printed or copied, or puts its
script in all places that it was asked for. What the clipboard does, and whether it is asked to do
anything, changes no more than what is logged and copied. A requested file that is a device keeps
nothing, and one that is the standard output shows there what it is given; no run makes a device. -/
theorem emission_is_all_or_nothing (sound : w.Sound) (occurs : clipboard.ending.Occurs)
    (asked : Arguments.ofWords words ≠ .error .help) :
    let o := run words directory w clipboard
    w.SameDevices o.workspace ∧
    (∀ failure, o.ending = .error failure → o.fed = [] ∧
      ((∀ path ∈ requestedBy words directory, o.workspace.device? path ≠ some .output) →
        o.stdout = "")) ∧
    (o.ending = .ok 2 → o.stdout = "" ∧ o.fed = [] ∧ o.workspace = w) ∧
    (∀ code, o.ending = .ok code → code ≠ 2 → code = 0 ∧
      ∃ tokens a config script, Token.ofWords words = .ok tokens ∧
        Arguments.ofWords words = .ok a ∧ a.config = .ok config ∧
        Script.generate config = .ok script ∧
        Emitted (options tokens) directory clipboard script o) ∧
    (∀ other : ClipboardState, other.ending.Occurs → o.Alike (run words directory w other)) ∧
    o.Alike (run ("--copy" :: words) directory w clipboard) := by
  intro o
  have outcomes : _ ∨ _ ∨ _ := run_cases directory sound occurs asked
  refine ⟨sameDevices_carryOut sound _, ?_, ?_, ?_, ?_, ?_⟩
  · intro failure ends
    rcases outcomes with ⟨fault, refused⟩ | ⟨_, _, nothing, silent⟩ | ⟨returned, _⟩
    · rw [show o = _ from refused] at ends
      cases ends
    · have unfed : o.fed = [] := by rw [Outcome.fed, show o.copies = [] from nothing, List.map_nil]
      exact ⟨unfed, silent⟩
    · rw [show o.ending = _ from returned] at ends
      cases ends
  · intro ends
    rcases outcomes with ⟨fault, refused⟩ | ⟨_, failed, _⟩ | ⟨returned, _⟩
    · rw [show o = _ from refused]
      exact ⟨rfl, rfl, rfl⟩
    · rw [show o.ending = _ from failed] at ends
      cases ends
    · rw [show o.ending = _ from returned] at ends
      cases ends
  · intro code ends other
    rcases outcomes with ⟨fault, refused⟩ | ⟨_, failed, _⟩ | ⟨returned, emitted⟩
    · rw [show o = _ from refused] at ends
      cases ends
      exact absurd rfl other
    · rw [show o.ending = _ from failed] at ends
      cases ends
    · rw [show o.ending = _ from returned] at ends
      cases ends
      exact ⟨rfl, emitted⟩
  · intro other also
    exact (carryOut_alike occurs also _).1
  · have copied := (carryOut_alike (w := w) occurs occurs (plan words directory)).2
    rw [← plan_copy] at copied
    exact copied

/-- A script in two files, one of them in a directory to be made, while its copy fails. -/
theorem emission_to_two_files :
    let words := ["--output", "made/../made/x.pine", "--copy", "--save", "--weight=rsi=2"]
    let directory := Path.ofText "output"
    let clipboard : ClipboardState := ⟨["clip", "xsel"], .exit 3 [104, 105]⟩
    let o := run words directory .empty clipboard
    (Workspace.empty.Sound ∧ clipboard.ending.Occurs ∧ Arguments.ofWords words ≠ .error .help) ∧
      o.ending = .ok 0 ∧ o.stdout = "" ∧ o.warnings = 1 ∧
      (∃ script, o.workspace.text? (.ofText "made/../made/x.pine") = some script ∧
        o.workspace.text? (directory.child Script.fileName) = some script ∧
        o.fed = [(⟨"xsel", ["--clipboard", "--input"]⟩, script.toUTF8)]) ∧
      o.Alike (run ("--copy" :: words) directory .empty clipboard) := by
  intro words directory clipboard o
  have occurs : clipboard.ending.Occurs := ⟨nofun, by decide⟩
  have asked : Arguments.ofWords words ≠ .error .help := by
    intro help
    have read : (Arguments.ofWords words).isOk = true := by decide +kernel
    rw [help] at read
    cases read
  have ends : o.ending = .ok 0 := by
    have code : o.ending.toOption = some 0 := by decide +kernel
    cases ending : o.ending with
    | error failure => rw [ending] at code; cases code
    | ok n => rw [ending] at code; exact congrArg Except.ok (Option.some.inj code)
  have sorted : Token.ofWords words = .ok [.option .output true none,
      .argument "made/../made/x.pine", .option .copy true none, .option .save true none,
      .option .weight true (some "rsi=2")] := by decide
  obtain ⟨_, _, _, returned, _, alike⟩ :=
    @emission_is_all_or_nothing .empty clipboard words directory Workspace.sound_empty occurs asked
  obtain ⟨_, tokens, a, config, script, read, _, _, _, emitted⟩ := returned 0 ends (by decide)
  obtain rfl := Except.ok.inj (sorted.symm.trans read)
  have warned : o.warnings ≠ 0 := fun quiet => nomatch (emitted.quiet.mp quiet (by decide)).2
  have noDevice : o.workspace.device? (.ofText "made/../made/x.pine") = none ∧
      o.workspace.device? (directory.child Script.fileName) = none := by decide +kernel
  refine ⟨⟨Workspace.sound_empty, occurs, asked⟩, ends, emitted.stdout ?_, ?_, ⟨script, ?_, ?_, ?_⟩,
    alike⟩
  · decide +kernel
  · exact Nat.le_antisymm emitted.warnings (Nat.pos_of_ne_zero warned)
  · exact emitted.files _ (by decide) noDevice.1
  · exact emitted.files _ (by decide) noDevice.2
  · exact emitted.fed

/-- A script is to be printed and copied. -/
def Plan.printsAndCopies : Plan → Bool
  | .emit _ [] true => true
  | _ => false

theorem Plan.exists_of_printsAndCopies {todo : Plan} (h : todo.printsAndCopies = true) :
    ∃ script, todo = .emit script [] true := by
  unfold printsAndCopies at h
  split at h
  · exact ⟨_, rfl⟩
  · cases h

/-- A copy whose failure cannot be put into words breaks off a run. -/
theorem carryOut_unreported {c : Clipboard.Command} {fault : Clipboard.ReportFault}
    (found : Clipboard.findCommand? clipboard.available = some c)
    (unreported : clipboard.ending.reportFault? = some fault) :
    ((Plan.emit script [] true).carryOut w clipboard).ending = .error (.clipboard fault) := by
  simp only [Plan.carryOut, writeAll, Clipboard.copy, found, Clipboard.Command.result, unreported,
    if_true]

/-- Two dashes that are attached to an output are taken for the separator, so the script goes to the
standard output and no file is written. The null device keeps nothing of a script, and the device of
the standard output shows it there. A system error whose number has too many digits to be written is
not reported. -/
theorem dashes_and_devices_keep_no_script :
    let run words ending := run words (.ofText "output") .empty ⟨["clip"], ending⟩
    (Token.ofWords ["--output=--"] = .ok [.option .output true (some "--")] ∧
      (run ["--output=--"] .success).ending.toOption = some 0 ∧
      (run ["--output=--"] .success).stdout ≠ "" ∧
      (run ["--output=--"] .success).workspace.text? (.ofText "--") = none) ∧
    ((run ["-o", "/dev/null"] .success).ending.toOption = some 0 ∧
      (run ["-o", "/dev/null"] .success).workspace.text? (.ofText "/dev/null") = none) ∧
    ((run ["-o", "/dev/stdout"] .success).ending.toOption = some 0 ∧
      (run ["-o", "/dev/stdout"] .success).stdout ≠ "") ∧
    (run ["--copy"] (.systemError [.int (10 ^ Numeral.maxDigits : ℕ), .text "x"])).ending =
      .error (.clipboard .tooLong) := by
  intro run
  refine ⟨⟨by decide, ?_, ?_, ?_⟩, ⟨?_, ?_⟩, ⟨?_, ?_⟩, ?_⟩
  iterate 7 decide +kernel
  have emits : (plan ["--copy"] (.ofText "output")).printsAndCopies = true := by decide +kernel
  obtain ⟨script, planned⟩ := Plan.exists_of_printsAndCopies emits
  have ran ending : run ["--copy"] ending =
      (plan ["--copy"] (.ofText "output")).carryOut .empty ⟨["clip"], ending⟩ := rfl
  rw [ran, planned]
  exact carryOut_unreported rfl (Clipboard.reportFault?_of_long (Nat.le_refl _) "x")

end Outcomes

end CommandLine
end IndicatorDesigner
