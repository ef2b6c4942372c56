import IndicatorDesigner.Preview.Payload

/-!
Messages of a live preview and their replies. A message asks for a script or for the defaults; a
reply repeats the id of its message. Messages come from texts that were read, so every whole number
in them is short enough to be written.
-/
namespace IndicatorDesigner

inductive Message where
  | generate (id config : Value)
  | defaults (id : Value)
  | unknown (id kind : Value)

namespace Message

/-- The message that an object is. Without settings, or with any that count as false, the defaults
are meant. -/
def ofEntries (entries : List (Chars × Value)) : Message :=
  let id := (Value.find? "id" entries).getD .null
  let kind := (Value.find? "type" entries).getD .null
  let config := (Value.find? "config" entries).getD .null
  match kind with
  | .text "generate" => .generate id (if config.truthy then config else .object [])
  | .text "get_defaults" => .defaults id
  | kind => .unknown id kind

def ofValue? : Value → Option Message
  | .object entries => some (ofEntries entries)
  | _ => none

/-- The message that a value is; what is no object counts as an empty one. -/
def ofValue (v : Value) : Message := (ofValue? v).getD (ofEntries [])

def mismatchMessage (v : Value) : String := s!"'{v.kind}' object has no attribute 'get'"

end Message

inductive Reply where
  | ready (id : Value) (payload : Payload)
  | defaults (id : Value)
  | rejected (id : Value) (issues : List Issue)
  | unknown (id kind : Value)
  | unreadable

namespace Reply

def errorValue (id : Value) (errors : List Value) : Value :=
  .object [("type", .text "error"), ("id", id), ("errors", .list errors)]

/-- One error, which no field of the settings causes. -/
def plainError (path : List String) (message : String) : Value :=
  .object [("loc", .list (path.map .text)), ("msg", .text message)]

def toValue : Reply → Value
  | .ready id payload =>
    .object [("type", .text "pinescript"), ("id", id), ("data", payload.toValue)]
  | .defaults id =>
    .object [("type", .text "defaults"), ("id", id), ("data", Config.standard.toValue)]
  | .rejected id issues => errorValue id (issues.map Issue.toValue)
  | .unknown id kind =>
    errorValue id [plainError ["type"] ("Unknown message type: " ++ kind.quoted)]
  | .unreadable => errorValue .null [plainError [] "Message is not valid JSON"]

def entries : Reply → List Log.Entry
  | .ready _ payload => [payload.entry]
  | _ => []

end Reply

def Message.reply (generate : Generator) (cache : Cache) :
    Message → Except Cache.Fault (Reply × Cache)
  | .generate id config =>
    match Request.ofValue config with
    | .error issues => .ok (.rejected id issues, cache)
    | .ok request => do
      let (payload, cache) ← Payload.make generate cache request.toConfig
      .ok (.ready id payload, cache)
  | .defaults id => .ok (.defaults id, cache)
  | .unknown id kind => .ok (.unknown id kind, cache)

end IndicatorDesigner
