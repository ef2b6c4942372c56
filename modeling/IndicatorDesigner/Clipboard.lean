import IndicatorDesigner.Log.Logger
import IndicatorDesigner.Numeric.Word
import IndicatorDesigner.Text.Blank
import IndicatorDesigner.Text.Utf8
import IndicatorDesigner.Value.Printer

/-!
Copying a text by piping it into the first clipboard command that is there. Only a command that
ends well counts as success.
-/
namespace IndicatorDesigner.Clipboard

/-- A command with its arguments. -/
structure Command where
  program : String
  arguments : List String
  deriving DecidableEq, Repr

def Command.words (c : Command) : List String := c.program :: c.arguments

def commands : List Command :=
  [⟨"pbcopy", []⟩, ⟨"wl-copy", []⟩, ⟨"xclip", ["-selection", "clipboard"]⟩,
   ⟨"xsel", ["--clipboard", "--input"]⟩, ⟨"clip", []⟩]

def timeoutSeconds : Nat := 5

def findCommand? (available : List String) : Option Command :=
  commands.find? fun c => available.contains c.program

/-- How a command ends. A system error comes with its arguments. -/
inductive Ending where
  | success
  | exit (code : Int) (stderr : List Nat)
  | timeout
  | systemError (arguments : List Value)
  deriving Repr

def tupleText (values : List Value) : String :=
  "(" ++ ", ".intercalate (values.map Value.quoted) ++ ")"

/-- The numbers of the errors that mean that a call would have to wait. -/
def waitNumbers : List Int := [11, 114, 115]

/-- The file that a system error names. For a call that would have to wait, a number in its place
is a count. -/
def errorFile? (number file : Value) : Option Value :=
  match number, file with
  | _, .null => none
  | _, .chars s => some (.chars s)
  | .int n, .scalar s => if waitNumbers.contains n then none else some (.scalar s)
  | _, file => some file

/-- Why the ending of a command cannot be reported: what stands for a count is none, or a number is
too long to be written. -/
inductive ReportFault where
  | notACount (kind : String)
  | countTooLarge
  | tooLong
  deriving DecidableEq, Repr

def ReportFault.message : ReportFault → String
  | .notACount kind => s!"'{kind}' object cannot be interpreted as an integer"
  | .countTooLarge => "cannot fit 'int' into an index-sized integer"
  | .tooLong => Numeral.tooLongToWrite

def countFault? : Value → Option ReportFault
  | .float x => some (.notACount (Value.float x).kind)
  | .int n => if fitsWord n then none else some .countTooLarge
  | _ => none

/-- What is wrong with the count of a system error. A call that would have to wait reports one in
the place of its file. -/
def waitFault? : List Value → Option ReportFault
  | .int n :: _ :: file :: rest =>
    if waitNumbers.contains n && rest.length ≤ 2 then countFault? file else none
  | _ => none

/-- The files that a system error names. The second one is only named behind the first. -/
def errorFiles (number file other : Value) : List Value :=
  match errorFile? number file, other with
  | none, _ => []
  | some file, .null => [file]
  | some file, other => [file, other]

/-- What is worded of a system error: a number and a text with up to two files, or else all. -/
inductive Wording where
  | bare (items : List Value)
  | numbered (number text : Value) (files : List Value)

def wordingOf : List Value → Wording
  | [number, text] => .numbered number text []
  | [number, text, file] => .numbered number text (errorFiles number file .null)
  | [number, text, file, _] => .numbered number text (errorFiles number file .null)
  | [number, text, file, _, other] => .numbered number text (errorFiles number file other)
  | items => .bare items

def Wording.parts : Wording → List Value
  | .bare items => items
  | .numbered number text files => number :: text :: files

def Wording.text : Wording → String
  | .bare [] => ""
  | .bare [v] => v.plain
  | .bare items => tupleText items
  | .numbered number text files =>
    s!"[Errno {number.plain}] {text.plain}" ++
      if files.isEmpty then "" else ": " ++ " -> ".intercalate (files.map Value.quoted)

/-- Why an ending cannot be reported. -/
def Ending.reportFault? : Ending → Option ReportFault
  | .exit code _ => if (Value.int code).tooLong then some .tooLong else none
  | .systemError arguments =>
    (waitFault? arguments).or
      (if (wordingOf arguments).parts.any Value.tooLong then some .tooLong else none)
  | _ => none

/-- Why nothing was copied. The last one is a failure of the report, not of the copy. -/
inductive Fault where
  | noCommand
  | exited (program : String) (code : Int) (stderr : String)
  | failed (program reason : String)
  | unreported (fault : ReportFault)
  deriving DecidableEq, Repr

def Fault.message : Fault → String
  | .noCommand =>
    "No clipboard command available (tried "
      ++ ", ".intercalate (commands.map Command.program) ++ ")"
  | .exited program code stderr => s!"{program} exited with {code}: {stderr}"
  | .failed program reason => s!"{program} failed: {reason}"
  | .unreported fault => fault.message

def Command.quoted (c : Command) : String := (Value.list (c.words.map .text)).quoted

/-- What comes of a command that ends. -/
def Command.outcome (c : Command) : Ending → Except Fault String
  | .success => .ok c.program
  | .exit code stderr => .error (.exited c.program code (Text.strip (Text.decodeUtf8Lossy stderr)))
  | .timeout =>
    .error (.failed c.program
      ("Command '" ++ c.quoted ++ s!"' timed out after {timeoutSeconds} seconds"))
  | .systemError arguments => .error (.failed c.program (wordingOf arguments).text)

def Command.result (c : Command) (ending : Ending) : Except Fault String :=
  match ending.reportFault? with
  | some fault => .error (.unreported fault)
  | none => c.outcome ending

/-- An attempt to copy: the command that was run, if there was one, and what came of it. -/
structure Attempt where
  command : Option Command
  result : Except Fault String

/-- Copies with the first available command, whose ending is given. -/
def copy (available : List String) (ending : Ending) : Attempt :=
  match findCommand? available with
  | none => ⟨none, .error .noCommand⟩
  | some c => ⟨some c, c.result ending⟩

def Attempt.entries (a : Attempt) (text : String) : List Log.Entry :=
  match a.result with
  | .ok program => [.debug s!"[Clipboard] Copied {text.length} chars via {program}"]
  | .error _ => []

end IndicatorDesigner.Clipboard
