import IndicatorDesigner.Settings.Feature
import IndicatorDesigner.Value.Printer

/-! What is wrong with a submitted value: where it stands, what rule it breaks, and the value. -/
namespace IndicatorDesigner

namespace Issue

inductive Cause where
  | objectExpected
  | mapExpected
  | intExpected
  | intUnreadable
  | intTooLarge
  | fractionalPart
  | infiniteNumber
  | numberExpected
  | numberUnreadable
  | tooSmall (bound : Scalar)
  | tooLarge (bound : Scalar)
  | switchExpected
  | switchUnreadable
  | notAnOption (options : List String)
  | weightOutOfRange (feature : Feature) (least greatest : Scalar)
  | extraField
  | brokenText
  deriving DecidableEq, Repr

/-- Options in quotes, the last one after `or`. -/
def optionText : List String → String
  | [] => ""
  | [a] => Text.quoted a
  | [a, b] => Text.quoted a ++ " or " ++ Text.quoted b
  | a :: rest => Text.quoted a ++ ", " ++ optionText rest

/-- A bound; a whole number has no point. -/
def boundText : Scalar → String
  | .float x =>
    match x.toRat? with
    | some r => if r.den = 1 then toString r.num else x.text
    | none => x.text
  | s => s.quoted

def Cause.message : Cause → String
  | .objectExpected => "Input should be a valid dictionary or instance of IndicatorConfigRequest"
  | .mapExpected => "Input should be a valid dictionary"
  | .intExpected => "Input should be a valid integer"
  | .intUnreadable => "Input should be a valid integer, unable to parse string as an integer"
  | .intTooLarge => "Unable to parse input string as an integer, exceeded maximum size"
  | .fractionalPart => "Input should be a valid integer, got a number with a fractional part"
  | .infiniteNumber => "Input should be a finite number"
  | .numberExpected => "Input should be a valid number"
  | .numberUnreadable => "Input should be a valid number, unable to parse string as a number"
  | .tooSmall bound => "Input should be greater than or equal to " ++ boundText bound
  | .tooLarge bound => "Input should be less than or equal to " ++ boundText bound
  | .switchExpected => "Input should be a valid boolean"
  | .switchUnreadable => "Input should be a valid boolean, unable to interpret input"
  | .notAnOption options => "Input should be " ++ optionText options
  | .weightOutOfRange feature least greatest =>
    "Value error, weight for " ++ feature.id ++ " must be between " ++ least.quoted ++ " and "
      ++ greatest.quoted
  | .extraField => "Extra inputs are not permitted"
  | .brokenText =>
    "Input should be a valid string, unable to parse raw data as a unicode string"

def Cause.name : Cause → String
  | .objectExpected => "model_type"
  | .mapExpected => "dict_type"
  | .intExpected => "int_type"
  | .intUnreadable => "int_parsing"
  | .intTooLarge => "int_parsing_size"
  | .fractionalPart => "int_from_float"
  | .infiniteNumber => "finite_number"
  | .numberExpected => "float_type"
  | .numberUnreadable => "float_parsing"
  | .tooSmall _ => "greater_than_equal"
  | .tooLarge _ => "less_than_equal"
  | .switchExpected => "bool_type"
  | .switchUnreadable => "bool_parsing"
  | .notAnOption _ => "enum"
  | .weightOutOfRange _ _ _ => "value_error"
  | .extraField => "extra_forbidden"
  | .brokenText => "string_unicode"

/-- What a rule is about, as far as it is reported. -/
def Cause.context? : Cause → Option Value
  | .tooSmall bound => some (.object [("ge", .scalar bound)])
  | .tooLarge bound => some (.object [("le", .scalar bound)])
  | .notAnOption options => some (.object [("expected", .text (optionText options))])
  | .weightOutOfRange _ _ _ => some (.object [("error", .object [])])
  | _ => none

end Issue

/-- A broken rule, the path to the value that breaks it, and that value. -/
structure Issue where
  path : List String
  cause : Issue.Cause
  input : Value
  deriving Repr

namespace Issue

def toValue (i : Issue) : Value :=
  .object [("loc", .list (i.path.map .text)), ("msg", .text i.cause.message)]

end Issue
end IndicatorDesigner
