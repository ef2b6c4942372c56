import IndicatorDesigner.Json.Printer
import IndicatorDesigner.Request.Issue

/-! Answers over HTTP and the forms that errors take in them. -/
namespace IndicatorDesigner.Http

/-- An answer: its status, two of its headers and its text. -/
structure Response where
  status : Nat
  contentType : Option String
  disposition : Option String
  body : String
  deriving DecidableEq, Repr

namespace Response

def plain (status : Nat) (body : String) : Response :=
  ⟨status, some "text/plain; charset=utf-8", none, body⟩

def bare (contentType : String) : Response := ⟨200, some contentType, none, ""⟩

def serverError : Response := plain 500 "Internal Server Error"

end Response

mutual

/-- Whether a value can be sent: its numbers are finite and its characters are texts. -/
def canSend : Value → Bool
  | .scalar (.float x) => x.isFinite
  | .scalar (.text s) => s.isText
  | .scalar _ => true
  | .list items => canSendItems items
  | .object entries => canSendEntries entries
termination_by structural v => v

def canSendItems : List Value → Bool
  | [] => true
  | v :: rest => canSend v && canSendItems rest
termination_by structural vs => vs

def canSendEntries : List (Chars × Value) → Bool
  | [] => true
  | (key, v) :: rest => key.isText && canSend v && canSendEntries rest
termination_by structural es => es

end

/-- Whether an entry with this key is kept out of answers. -/
def isInternal (key : Chars) : Bool := (Text.points "_sa").isPrefixOf key.points

mutual

/-- A value without its internal entries. -/
def visible : Value → Value
  | .scalar s => .scalar s
  | .list items => .list (visibleItems items)
  | .object entries => .object (visibleEntries entries)
termination_by structural v => v

def visibleItems : List Value → List Value
  | [] => []
  | v :: rest => visible v :: visibleItems rest
termination_by structural vs => vs

/-- The entries of an object that are not internal. -/
def visibleEntries : List (Chars × Value) → List (Chars × Value)
  | [] => []
  | (key, v) :: rest =>
    if isInternal key then visibleEntries rest else (key, visible v) :: visibleEntries rest
termination_by structural es => es

end

namespace Response

/-- An answer in JSON. The server fails on a value that cannot be sent. -/
def json (status : Nat) (v : Value) : Response :=
  if canSend v then ⟨status, some "application/json", none, Json.write v⟩ else serverError

def detail (status : Nat) (message : String) : Response :=
  json status (.object [("detail", .text message)])

def rejected (details : List Value) : Response :=
  json 422 (visible (.object [("detail", .list details)]))

end Response

def detailValue (name : String) (path : List Value) (message : String) (input : Value)
    (context : Option Value) : Value :=
  .object
    (("type", .text name) :: ("loc", .list (.text "body" :: path)) :: ("msg", .text message)
      :: ("input", input) :: context.toList.map fun v => ("ctx", v))

def issueValue (i : Issue) : Value :=
  match i.cause with
  | .objectExpected =>
    detailValue "model_attributes_type" []
      "Input should be a valid dictionary or object to extract fields from" i.input none
  | cause => detailValue cause.name (i.path.map .text) cause.message i.input cause.context?

def missingValue : Value := detailValue "missing" [] "Field required" .null none

def notJsonValue (reason : String) (position : Nat) : Value :=
  detailValue "json_invalid" [.int position] "JSON decode error" (.object [])
    (some (.object [("error", .text reason)]))

end IndicatorDesigner.Http
