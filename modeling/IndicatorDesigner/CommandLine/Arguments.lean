import IndicatorDesigner.CommandLine.Token
import IndicatorDesigner.Config.Build
import IndicatorDesigner.Numeric.Numeral
import IndicatorDesigner.Request.Issue
import IndicatorDesigner.Text.Blank

/-!
The settings that a command line asks for. Options are taken from left to right and the first fault
is reported; words that no option takes are reported last.
-/
namespace IndicatorDesigner.CommandLine

inductive WeightFault where
  | syntaxFault (text : String)
  | notANumber (feature : Feature) (value : String)
  deriving DecidableEq, Repr

def WeightFault.message : WeightFault → String
  | .syntaxFault text =>
    "expected FEATURE=VALUE with FEATURE in "
      ++ (Value.list (Feature.all.map fun f => .text f.id)).quoted ++ ", got " ++ Text.quoted text
  | .notANumber feature value =>
    "weight for " ++ feature.id ++ " is not a number: " ++ Text.quoted value

/-- Reads a feature and its weight. The feature may be in any case and between gaps. -/
def readWeight (text : String) : Except WeightFault (Feature × Binary64) :=
  match splitEquals text.toList with
  | (_, none) => .error (.syntaxFault text)
  | (name, some value) =>
    match Feature.ofId? (String.ofList ((Text.trimBoth Text.isGap name).map Char.toLower)) with
    | none => .error (.syntaxFault text)
    | some feature =>
      match Numeral.float? (String.ofList value) with
      | some x => .ok (feature, x)
      | none => .error (.notANumber feature (String.ofList value))

inductive Fault where
  | ambiguous (a : Ambiguity)
  | valueMissing (flag : Flag)
  | valueIgnored (flag : Flag) (value : String)
  | notAnInteger (flag : Flag) (value : String)
  | notANumber (flag : Flag) (value : String)
  | notAChoice (flag : Flag) (value : String) (choices : List String)
  | weight (fault : WeightFault)
  | unrecognized (words : List String)
  | conflict (features : List Feature)
  | rejected (issues : List Issue)
  deriving Repr

def argumentText (flag : Flag) (message : String) : String :=
  "argument " ++ flag.name ++ ": " ++ message

def issueText (i : Issue) : String := ".".intercalate i.path ++ ": " ++ i.cause.message

def Fault.message : Fault → String
  | .ambiguous a =>
    "ambiguous option: " ++ a.word ++ " could match " ++ ", ".intercalate a.matching
  | .valueMissing flag => argumentText flag "expected one argument"
  | .valueIgnored flag value =>
    argumentText flag ("ignored explicit argument " ++ Text.quoted value)
  | .notAnInteger flag value => argumentText flag ("invalid int value: " ++ Text.quoted value)
  | .notANumber flag value => argumentText flag ("invalid float value: " ++ Text.quoted value)
  | .notAChoice flag value choices =>
    argumentText flag
      ("invalid choice: " ++ Text.quoted value ++ " (choose from "
        ++ ", ".intercalate (choices.map Text.quoted) ++ ")")
  | .weight fault => argumentText .weight fault.message
  | .unrecognized words => "unrecognized arguments: " ++ " ".intercalate words
  | .conflict features =>
    "features both enabled and disabled: " ++ ", ".intercalate (features.map Feature.id)
  | .rejected issues => "; ".intercalate (issues.map issueText)

/-- Why the command line is not carried out. The last one breaks it off. -/
inductive Stop where
  | help
  | fault (f : Fault)
  | breakOff (f : Config.Fault)
  deriving Repr

/-- The settings of a command line. What is left blank is none, and so is an output that is not
given. Repeated features and weights are kept in order. -/
structure Arguments where
  lookback : Option Int
  buyThreshold : Option Binary64
  sellThreshold : Option Binary64
  bias : Option Binary64
  model : Option Model
  markerSize : Option MarkerSize
  enabled : List (Option Feature)
  disabled : List (Option Feature)
  weights : List (Option (Feature × Binary64))
  output : Option String
  save : Bool
  copy : Bool
  deriving Repr

namespace Arguments

def standard : Arguments :=
  { lookback := some Defaults.lookback, buyThreshold := some Defaults.buyThreshold,
    sellThreshold := some Defaults.sellThreshold, bias := some Defaults.bias,
    model := some Defaults.model, markerSize := some Defaults.markerSize, enabled := [],
    disabled := [], weights := [], output := none, save := false, copy := false }

def intFor (flag : Flag) (value : String) : Except Stop Int :=
  match Numeral.int value with
  | .ok n => .ok n
  | .error _ => .error (.fault (.notAnInteger flag value))

def floatFor (flag : Flag) (value : String) : Except Stop Binary64 :=
  match Numeral.float? value with
  | some x => .ok x
  | none => .error (.fault (.notANumber flag value))

def choiceFor {α : Type} (flag : Flag) (choices : List (String × α)) (value : String) :
    Except Stop α :=
  match choices.find? fun entry => entry.1 == value with
  | some (_, a) => .ok a
  | none => .error (.fault (.notAChoice flag value (choices.map (·.1))))

def weightFor (value : String) : Except Stop (Feature × Binary64) :=
  (readWeight value).mapError fun fault => .fault (.weight fault)

/-- The value of an option, unless it is the separator, which leaves it blank. Later
releases of the option parser, such as 3.11.10 and 3.12.3, keep it as it is. -/
def unlessBlank {α : Type} (value : String) (read : String → Except Stop α) :
    Except Stop (Option α) :=
  if value = "--" then .ok none else (read value).map some

/-- The settings after one option with its value, which options without one do not look at. -/
def take (a : Arguments) (flag : Flag) (value : String) : Except Stop Arguments :=
  match flag with
  | .help => .error .help
  | .lookback => do .ok { a with lookback := ← unlessBlank value (intFor flag) }
  | .buyThreshold => do .ok { a with buyThreshold := ← unlessBlank value (floatFor flag) }
  | .sellThreshold => do .ok { a with sellThreshold := ← unlessBlank value (floatFor flag) }
  | .bias => do .ok { a with bias := ← unlessBlank value (floatFor flag) }
  | .model => do .ok { a with model := ← unlessBlank value (choiceFor flag Flag.models) }
  | .markerSize => do
    .ok { a with markerSize := ← unlessBlank value (choiceFor flag Flag.markerSizes) }
  | .enable => do
    .ok { a with enabled := a.enabled ++ [← unlessBlank value (choiceFor flag Flag.features)] }
  | .disable => do
    .ok { a with disabled := a.disabled ++ [← unlessBlank value (choiceFor flag Flag.features)] }
  | .weight => do .ok { a with weights := a.weights ++ [← unlessBlank value weightFor] }
  | .output => do .ok { a with output := ← unlessBlank value .ok }
  | .save => .ok { a with save := true }
  | .copy => .ok { a with copy := true }

def takeAll (a : Arguments) : List (Flag × String) → Except Stop Arguments
  | [] => .ok a
  | (flag, value) :: rest => do (← a.take flag value).takeAll rest

end Arguments

/-- What one option word comes to: options that are complete, and one that waits for a value. -/
structure Cluster where
  complete : List (Flag × String)
  waiting : Option Flag
  deriving DecidableEq, Repr

namespace Cluster

def plain (flag : Flag) : Cluster :=
  if flag.takesValue then ⟨[], some flag⟩ else ⟨[(flag, "")], none⟩

def after (flag : Flag) (c : Cluster) : Cluster := { c with complete := (flag, "") :: c.complete }

/-- An option with what is attached to it: its value, or behind a short option without one, further
short options. -/
def attached (flag : Flag) (long : Bool) : List Char → Except Fault Cluster
  | [] => if flag.takesValue then .ok ⟨[(flag, "")], none⟩ else .error (.valueIgnored flag "")
  | c :: rest =>
    if flag.takesValue then .ok ⟨[(flag, String.ofList (c :: rest))], none⟩
    else if long then .error (.valueIgnored flag (String.ofList (c :: rest)))
    else
      match Flag.ofSpelling? (String.ofList ['-', c]), rest with
      | none, _ => .error (.valueIgnored flag (String.ofList (c :: rest)))
      | some next, [] => .ok ((plain next).after flag)
      | some next, x :: more => (attached next false (x :: more)).map (after flag)

def ofOption (flag : Flag) (long : Bool) : Option String → Except Fault Cluster
  | none => .ok (plain flag)
  | some value => attached flag long value.toList

end Cluster

/-- Takes the words from left to right. Gives the settings and the words that no option took. -/
def takeTokens (a : Arguments) : List Token → Except Stop (Arguments × List String)
  | [] => .ok (a, [])
  | .argument word :: rest => do
    let (a, extra) ← takeTokens a rest
    .ok (a, word :: extra)
  | .separator :: rest => do
    let (a, extra) ← takeTokens a rest
    .ok (a, "--" :: extra)
  | .unknown word :: rest => do
    let (a, extra) ← takeTokens a rest
    .ok (a, word :: extra)
  | .option flag long attached :: rest =>
    match Cluster.ofOption flag long attached with
    | .error fault => .error (.fault fault)
    | .ok cluster =>
      match cluster.waiting, rest with
      | none, rest => do takeTokens (← a.takeAll cluster.complete) rest
      | some waiting, .argument word :: rest => do
        let a ← a.takeAll (cluster.complete ++ [(waiting, word)])
        takeTokens a rest
      | some waiting, _ => .error (.fault (.valueMissing waiting))

def Arguments.ofWords (words : List String) : Except Stop Arguments := do
  let tokens ← (Token.ofWords words).mapError fun a => .fault (.ambiguous a)
  match ← takeTokens .standard tokens with
  | (a, []) => .ok a
  | (_, extra) => .error (.fault (.unrecognized extra))

end IndicatorDesigner.CommandLine
