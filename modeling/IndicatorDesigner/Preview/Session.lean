import IndicatorDesigner.Json.Printer
import IndicatorDesigner.Json.Reader
import IndicatorDesigner.Preview.Hub
import IndicatorDesigner.Preview.Message

/-!
The session of one live preview client. Every event is answered by at most one text. The session
ends when the client goes, when receiving or handling fails, or when a `ping` or `pong` cannot be
sent; a reply that cannot be sent is only logged.
-/
namespace IndicatorDesigner.Session

/-- After how many seconds of silence a client is sent a `ping`. -/
def silenceSeconds : Binary64 := 30.0

inductive Event where
  | text (message : String)
  | silence
  | failure (message : String)
  | disconnect
  deriving DecidableEq, Repr

/-- What a text is sent for, which decides what a failure to send it means. -/
inductive Purpose where
  | reply
  | pong
  | keepalive
  deriving DecidableEq, Repr

inductive Move where
  | send (text : String) (purpose : Purpose)
  | stop (error : Option String)
  deriving DecidableEq, Repr

structure Decision where
  move : Move
  entries : List Log.Entry
  cache : Cache

/-- The answer to a value that was read. A reply too deep for the call stack of the service is not
written: it counts as one that cannot be sent. -/
def answer (generate : Generator) (cache : Cache) (v : Value) : Decision :=
  match (Message.ofValue v).reply generate cache with
  | .ok (reply, cache) => ⟨.send (Json.write reply.toValue) .reply, reply.entries, cache⟩
  | .error fault => ⟨.stop (some fault.message), [], cache⟩

/-- The answer to a text. A text that is no JSON is answered; one beyond the limits of the reader
ends the session. -/
def answerText (generate : Generator) (cache : Cache) (text : String) : Decision :=
  if text = "ping" then ⟨.send "pong" .pong, [], cache⟩
  else
    match Json.read text with
    | .ok v => answer generate cache v
    | .error (.malformed _ _) => ⟨.send (Json.write Reply.unreadable.toValue) .reply, [], cache⟩
    | .error fault => ⟨.stop (some fault.message), [], cache⟩

def respond (generate : Generator) (cache : Cache) : Event → Decision
  | .text message => answerText generate cache message
  | .silence => ⟨.send "ping" .keepalive, [], cache⟩
  | .failure message => ⟨.stop (some message), [], cache⟩
  | .disconnect => ⟨.stop none, [], cache⟩

/-- What comes of a move: the texts sent, what is logged, and whether the session goes on. -/
structure Outcome where
  sent : List String
  entries : List Log.Entry
  goesOn : Bool
  deriving DecidableEq, Repr

def errorEntry (message : String) : Log.Entry := .warning ("[WebSocket] Error: " ++ message)

/-- What comes of a move when sending works, or fails with a message. A failure to send is a plain
error: it is not itself reported as silence or as the client's leaving. -/
def Move.outcome (sendFailure : Option String) : Move → Outcome
  | .send text purpose =>
    match sendFailure, purpose with
    | none, _ => ⟨[text], [], true⟩
    | some message, .reply => ⟨[], [Hub.sendFailedEntry message], true⟩
    | some message, .pong => ⟨[], [errorEntry message], false⟩
    | some _, .keepalive => ⟨[], [], false⟩
  | .stop none => ⟨[], [], false⟩
  | .stop (some message) => ⟨[], [errorEntry message], false⟩

structure Step where
  sent : List String
  entries : List Log.Entry
  connections : Nat

structure State where
  hub : Hub
  cache : Cache

/-- Handles one event of a client. The flag tells whether the session goes on. -/
def step (generate : Generator) (id : String) (s : State) (event : Event)
    (sendFailure : Option String) : Bool × Step × State :=
  let decision := respond generate s.cache event
  let outcome := decision.move.outcome sendFailure
  let entries := decision.entries ++ outcome.entries
  if outcome.goesOn then
    (true, ⟨outcome.sent, entries, s.hub.count⟩, ⟨s.hub, decision.cache⟩)
  else
    let hub := s.hub.disconnect id
    (false, ⟨outcome.sent, entries ++ [hub.disconnectEntry], hub.count⟩, ⟨hub, decision.cache⟩)

/-- Handles events until the session ends. Gives the steps and the events that were not taken. -/
def run (generate : Generator) (id : String) :
    State → List (Event × Option String) → List Step × List (Event × Option String) × State
  | s, [] => ([], [], s)
  | s, (event, sendFailure) :: rest =>
    match step generate id s event sendFailure with
    | (true, taken, s) =>
      match run generate id s rest with
      | (steps, left, s) => (taken :: steps, left, s)
    | (false, taken, s) => ([taken], rest, s)

def start (id : String) (s : State) : Step × State :=
  let hub := s.hub.connect id
  (⟨["websocket.accept"], [hub.connectEntry], hub.count⟩, { s with hub })

end IndicatorDesigner.Session
