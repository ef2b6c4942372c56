import IndicatorDesigner.CommandLine.Flag
import IndicatorDesigner.Text.DecimalDigit

/-!
The words of a command line, sorted into options and plain arguments. A long option may be cut short
as long as it is unmistakable, and a word that looks like a negative number or holds a blank is no
option.
-/
namespace IndicatorDesigner.CommandLine

/-- A word of the command line. A value may be attached to an option. -/
inductive Token where
  | argument (word : String)
  | separator
  | option (flag : Flag) (long : Bool) (attached : Option String)
  | unknown (word : String)
  deriving DecidableEq, Repr

structure Ambiguity where
  word : String
  matching : List String
  deriving DecidableEq, Repr

def splitEquals (word : List Char) : List Char × Option (List Char) :=
  match word.dropWhile (· != '=') with
  | '=' :: value => (word.takeWhile (· != '='), some value)
  | _ => (word, none)

def allDigits (s : List Char) : Bool := !s.isEmpty && s.all Text.isDecimalDigit

/-- Whether a word is a minus sign and a number with digits at its end. A newline may follow. -/
def looksNegative : List Char → Bool
  | '-' :: rest =>
    let rest := if rest.getLast? = some '\n' then rest.dropLast else rest
    allDigits rest
      || match rest.dropWhile Text.isDecimalDigit with
        | '.' :: fraction => allDigits fraction
        | _ => false
  | _ => false

def longMatches (word : List Char) : List (String × Flag) :=
  Flag.table.filter fun entry => word.isPrefixOf entry.1.toList

/-- A word that is not spelled out as an option: a long one cut short, a short one with its value
attached, or no known option. -/
def abbreviated (word : List Char) : Except Ambiguity (Option Token) :=
  match word with
  | '-' :: '-' :: _ =>
    match splitEquals word with
    | (name, value) =>
      match longMatches name with
      | [] => .ok none
      | [(_, flag)] => .ok (some (.option flag true (value.map String.ofList)))
      | several => .error ⟨String.ofList word, several.map (·.1)⟩
  | '-' :: c :: rest =>
    .ok ((Flag.ofSpelling? (String.ofList ['-', c])).map fun flag =>
      .option flag false (some (String.ofList rest)))
  | _ => .ok none

def isLong : List Char → Bool
  | '-' :: '-' :: _ => true
  | _ => false

def spelledOut (word : List Char) : Option Token :=
  match Flag.ofSpelling? (String.ofList word) with
  | some flag => some (.option flag (isLong word) none)
  | none =>
    match splitEquals word with
    | (name, some value) =>
      (Flag.ofSpelling? (String.ofList name)).map fun flag =>
        .option flag (isLong name) (some (String.ofList value))
    | (_, none) => none

def Token.ofWord (word : String) : Except Ambiguity Token :=
  match word.toList with
  | '-' :: c :: rest =>
    let chars := '-' :: c :: rest
    match spelledOut chars with
    | some token => .ok token
    | none =>
      match abbreviated chars with
      | .error a => .error a
      | .ok (some token) => .ok token
      | .ok none =>
        if looksNegative chars || chars.contains ' ' then .ok (.argument word)
        else .ok (.unknown word)
  | _ => .ok (.argument word)

/-- Sorts the words of a command line. Behind the separator all are arguments. -/
def Token.ofWords : List String → Except Ambiguity (List Token)
  | [] => .ok []
  | word :: rest =>
    if word = "--" then .ok (.separator :: rest.map .argument)
    else
      match Token.ofWord word, Token.ofWords rest with
      | .error a, _ => .error a
      | .ok _, .error a => .error a
      | .ok token, .ok tokens => .ok (token :: tokens)

end IndicatorDesigner.CommandLine
