import IndicatorDesigner.CommandLine.Flag

/-! The usage and the help of the command line, laid out for 80 columns. -/
namespace IndicatorDesigner.CommandLine

def lineWidth : Nat := 78

def helpColumn : Nat := 24

def blanks (n : Nat) : String := String.ofList (List.replicate n ' ')

/-- Puts words on lines: as many on each as fit into `width`, at least one. The line being filled
is given, of which a following line has none. -/
def fill (width : Nat) (line : String) : List String → List String
  | [] => if line = "" then [] else [line]
  | word :: rest =>
    if line = "" then fill width word rest
    else if line.length + 1 + word.length ≤ width then fill width (line ++ " " ++ word) rest
    else line :: fill width word rest

/-- Lines below each other, the later ones indented. -/
def joinIndented (indent : Nat) (lines : List String) : String :=
  ("\n" ++ blanks indent).intercalate lines

def usagePart (f : Flag) : String :=
  "[" ++ " ".intercalate (f.spellings.take 1 ++ f.placeholder?.toList) ++ "]"

/-- The usage, with a newline at the end. -/
def usage : String :=
  let head := "usage: " ++ program ++ " "
  let lines := fill (lineWidth - head.length) "" (Flag.all.map usagePart)
  head ++ joinIndented head.length lines ++ "\n"

/-- An option in the help: its spellings, each with what stands for its value. -/
def invocation (f : Flag) : String :=
  ", ".intercalate (f.spellings.map fun s => " ".intercalate (s :: f.placeholder?.toList))

/-- The entry of an option in the help. A long invocation has a line of its own. -/
def helpEntry (f : Flag) : String :=
  let start := "  " ++ invocation f
  let gap :=
    if start.length + 2 ≤ helpColumn then blanks (helpColumn - start.length)
    else "\n" ++ blanks helpColumn
  start ++ gap
    ++ joinIndented helpColumn (fill (lineWidth - helpColumn) "" (f.helpText.splitOn " ")) ++ "\n"

def help : String :=
  usage ++ "\n" ++ description ++ "\n\noptions:\n" ++ String.join (Flag.all.map helpEntry)

end IndicatorDesigner.CommandLine
