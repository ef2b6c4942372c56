import IndicatorDesigner.Proofs.Answers

/-!
Many clients and one cache. Requests and live previews share the cache, in any order, and yet each
answer is the one that a service just started gives to the same request alone.
-/
namespace IndicatorDesigner

namespace Hub

theorem id_client (h : Hub) (id : String) : (h.client id).id = id := by
  rw [client]
  cases hf : h.find? fun c => c.id == id with
  | none => rfl
  | some c => simpa using List.find?_some hf

theorem client_put (h : Hub) (c : Client) : (h.put c).client c.id = c := by
  rw [put]
  split
  · rename_i seen
    obtain ⟨first, member, same⟩ := List.any_eq_true.mp seen
    have alike : ((fun d : Client => d.id == c.id) ∘ fun d => if d.id == c.id then c else d) =
        fun d => d.id == c.id := by
      funext d
      by_cases hd : d.id = c.id
      · simp [hd]
      · simp [hd]
    rw [client, List.find?_map, alike]
    cases hf : h.find? fun d => d.id == c.id with
    | none => exact absurd same (List.find?_eq_none.mp hf first member)
    | some found =>
        have id := List.find?_some (p := fun d : Client => d.id == c.id) hf
        rw [Option.map_some, Option.getD_some, if_pos id]
  · rename_i unseen
    have none : h.find? (fun d => d.id == c.id) = none := by
      refine List.find?_eq_none.mpr fun d hd same => unseen ?_
      exact List.any_eq_true.mpr ⟨d, hd, same⟩
    simp [client, List.find?_append, none]

/-- A client that was accepted is connected. -/
theorem connected_connect (h : Hub) (id : String) :
    ((h.connect id).client id).connected = true := by
  have put := client_put h
    { h.client id with connected := true, accepted := (h.client id).accepted + 1 }
  rw [id_client] at put
  rw [connect, put]

end Hub

namespace App

/-- What happens to a service: a call over HTTP, a new live preview, or an event of one. -/
inductive Event where
  | call (now : String) (call : Http.Call)
  | connect (client : String)
  | session (client : String) (event : Session.Event)

/-- What comes back: an answer over HTTP, or the texts sent and whether the session goes on, each
with what is logged for the request itself. -/
inductive Answer where
  | http (response : Http.Response) (entries : List Log.Entry)
  | session (sent : List String) (entries : List Log.Entry) (goesOn : Bool)

/-- A service just started, with a cache of the given size. -/
def fresh (size : Int) : Session.State := ⟨[], .empty (.ofInt size)⟩

/-- The answer to an event, and the state after it. A preview that is not open gets none. What is
logged last when a session ends tells of the other clients and is not part of its answer. -/
def step (s : Session.State) : Event → Option Answer × Session.State
  | .call now call =>
    let result := Http.respond .scripts now s.cache call
    (some (.http result.response result.entries), { s with cache := result.cache })
  | .connect client =>
    let (taken, s) := Session.start client s
    (some (.session taken.sent [] true), s)
  | .session client event =>
    if (s.hub.client client).connected then
      let (goesOn, taken, s) := Session.step .scripts client s event none
      let entries := if goesOn then taken.entries else taken.entries.dropLast
      (some (.session taken.sent entries goesOn), s)
    else (none, s)

/-- The state after a run of events. -/
def run : Session.State → List Event → Session.State
  | s, [] => s
  | s, event :: rest => run (step s event).2 rest

/-- What must happen before an event can: a preview must be opened. -/
def Event.opening : Event → List Event
  | .session client _ => [.connect client]
  | _ => []

/-- The answer to an event after a run of a service just started. -/
def answerAfter (size : Int) (history : List Event) (event : Event) : Option Answer :=
  (step (run (fresh size) history) event).1

/-- The answer to an event by a service just started. -/
def answerAlone (size : Int) (event : Event) : Option Answer :=
  answerAfter size event.opening event

/-- An event that asks for the counts of the cache. -/
def Event.AsksForStats : Event → Prop
  | .call _ asked => asked.AsksForStats
  | _ => False

/-- An event that asks for the script of an accepted request, with the answer that shows a script.
-/
inductive Event.AsksForScript : Event → Request → (String → Answer) → Prop
  | script {now : String} {call : Http.Call} {request : Request}
      (path : Http.Endpoint.ofPath? call.path = some .script) (method : call.method = "POST")
      (body : Http.Submission.ofBody call.body = .accepted request) :
      AsksForScript (.call now call) request fun script =>
        .http (Http.scriptResponse request.toConfig script)
          [(Payload.of request.toConfig script).entry]
  | download {now : String} {call : Http.Call} {request : Request}
      (path : Http.Endpoint.ofPath? call.path = some .download) (method : call.method = "POST")
      (body : Http.Submission.ofBody call.body = .accepted request) :
      AsksForScript (.call now call) request fun script => .http (Http.fileResponse script) []
  | message {client text : String} {v id config : Value} {request : Request}
      (read : Json.read text = .ok v) (generate : Message.ofValue v = .generate id config)
      (accepted : Request.ofValue config = .ok request) :
      AsksForScript (.session client (.text text)) request fun script =>
        .session [Session.scriptReply id request.toConfig script]
          [(Payload.of request.toConfig script).entry] true

/-- An event that can be answered: one of no preview or of an open one. -/
def Event.Open (s : Session.State) : Event → Prop
  | .session client _ => (s.hub.client client).connected = true
  | _ => True

/-- The answer of a session that a move and what is logged with it amount to. -/
def sessionAnswer (move : Session.Move) (entries : List Log.Entry) : Answer :=
  let outcome := move.outcome none
  .session outcome.sent (entries ++ outcome.entries) outcome.goesOn

variable {s : Session.State}

theorem step_session {client : String} (event : Session.Event)
    (connected : (s.hub.client client).connected = true) :
    ∃ hub, step s (.session client event) =
      (some (sessionAnswer (Session.respond .scripts s.cache event).move
        (Session.respond .scripts s.cache event).entries),
        ⟨hub, (Session.respond .scripts s.cache event).cache⟩) := by
  simp only [step, if_pos connected, Session.step, sessionAnswer]
  cases ((Session.respond .scripts s.cache event).move.outcome none).goesOn with
  | true => exact ⟨s.hub, rfl⟩
  | false => exact ⟨s.hub.disconnect client, by simp⟩

/-- Every event but one for the counts of the cache has one answer, whatever happened before. -/
theorem settled_step {event : Event} (h : ¬event.AsksForStats) :
    ∃ answer, ∀ s : Session.State, s.cache.Sound → event.Open s →
      (step s event).1 = some answer := by
  cases event with
  | call now call =>
      obtain ⟨⟨response, entries⟩, given⟩ := Http.settled_respond now h
      refine ⟨.http response entries, ?_⟩
      intro s sound _
      obtain ⟨after, _, shown⟩ := given s.cache sound
      obtain ⟨rfl, rfl⟩ := Prod.mk.inj (Prod.mk.inj shown).1
      rfl
  | connect client => exact ⟨.session ["websocket.accept"] [] true, fun _ _ _ => rfl⟩
  | session client event =>
      obtain ⟨⟨move, entries⟩, given⟩ := Session.settled_respond event
      refine ⟨sessionAnswer move entries, ?_⟩
      intro s sound connected
      obtain ⟨after, _, shown⟩ := given s.cache sound
      obtain ⟨rfl, rfl⟩ := Prod.mk.inj (Prod.mk.inj shown).1
      obtain ⟨hub, stepped⟩ := step_session event connected
      rw [stepped]

theorem sound_respond (now : String) (call : Http.Call) {c : Cache} (hc : c.Sound) :
    (Http.respond .scripts now c call).cache.Sound := by
  by_cases stats : call.AsksForStats
  · obtain ⟨path, method⟩ := stats
    have same : (Http.respond .scripts now c call).cache = c := by
      simp [Http.respond, path, method, Http.Endpoint.methods, Http.Endpoint.answer]
    rwa [same]
  · obtain ⟨_, given⟩ := Http.settled_respond now stats
    obtain ⟨after, sound, shown⟩ := given c hc
    obtain ⟨_, rfl⟩ := Prod.mk.inj shown
    exact sound

/-- No event brings a script into the cache that is not one of settings in range. -/
theorem sound_step (sound : s.cache.Sound) (event : Event) : (step s event).2.cache.Sound := by
  cases event with
  | call now call => exact sound_respond now call sound
  | connect client => exact sound
  | session client event =>
      by_cases connected : (s.hub.client client).connected = true
      · obtain ⟨hub, stepped⟩ := step_session event connected
        rw [stepped]
        exact Session.sound_respond sound event
      · simp only [step, if_neg connected]
        exact sound

theorem sound_run (sound : s.cache.Sound) (history : List Event) :
    (run s history).cache.Sound := by
  induction history generalizing s with
  | nil => exact sound
  | cons event rest ih => exact ih (sound_step sound event)

theorem sound_fresh (size : Int) : (fresh size).cache.Sound := Cache.kept_empty _

theorem open_opening (s : Session.State) (event : Event) : event.Open (run s event.opening) := by
  cases event with
  | call now call => trivial
  | connect client => trivial
  | session client event => exact Hub.connected_connect s.hub client

/-- Whoever asks for the script of an accepted request is shown the script of its settings. -/
theorem script_of_step {event : Event} {request : Request} {present : String → Answer}
    (asks : event.AsksForScript request present) : ∃ script,
      Script.generate request.toConfig = .ok script ∧ ∀ s : Session.State, s.cache.Sound →
        event.Open s → (step s event).1 = some (present script) := by
  cases asks with
  | script path method body =>
      have ready := Http.inRange_of_ofBody body
      obtain ⟨script, hg, _⟩ := Script.generate_inRange ready
      refine ⟨script, hg, ?_⟩
      intro s sound _
      obtain ⟨after, _, given⟩ := Http.answerScript_eq sound ready hg
      simp [step, Http.respond, path, method, Http.Endpoint.methods, Http.Endpoint.answer, body,
        given]
  | download path method body =>
      have ready := Http.inRange_of_ofBody body
      obtain ⟨script, hg, _⟩ := Script.generate_inRange ready
      refine ⟨script, hg, ?_⟩
      intro s sound _
      obtain ⟨after, _, given⟩ := Http.answerDownload_eq sound ready hg
      simp [step, Http.respond, path, method, Http.Endpoint.methods, Http.Endpoint.answer, body,
        given]
  | @message client text v id config request read generate accepted =>
      obtain ⟨script, hg, _⟩ := Script.generate_inRange (Request.inRange accepted)
      refine ⟨script, hg, ?_⟩
      intro s sound connected
      obtain ⟨after, _, given⟩ := Session.answer_eq sound generate accepted hg
      obtain ⟨hub, stepped⟩ := step_session (.text text) connected
      have decided : Session.respond .scripts s.cache (.text text) =
          ⟨.send (Session.scriptReply id request.toConfig script) .reply,
            [(Payload.of request.toConfig script).entry], after⟩ := by
        rw [Session.respond, Session.answerText, if_neg (Session.ne_ping_of_read read), read]
        exact given
      rw [stepped, decided]
      rfl

/-- Whatever happened before, an event other than one for the counts of the cache is answered, and
the answer is the one that a service just started gives to the same request alone. To an accepted
request it shows the script of its very settings. -/
theorem answer_eq_answerAlone {size alone : Int} {history : List Event} {event : Event}
    (isOpen : event.Open (run (fresh size) history)) (hs : ¬event.AsksForStats) :
    ∃ answer, answerAfter size history event = some answer ∧
      answerAlone alone event = some answer ∧
      ∀ request present, event.AsksForScript request present →
        ∃ script, Script.generate request.toConfig = .ok script ∧ answer = present script := by
  have sound := sound_run (sound_fresh size) history
  obtain ⟨answer, given⟩ := settled_step hs
  have answered := given _ sound isOpen
  refine ⟨answer, answered, ?_, ?_⟩
  · exact given _ (sound_run (sound_fresh alone) _) (open_opening _ event)
  · intro request present asks
    obtain ⟨script, generated, shown⟩ := script_of_step asks
    exact ⟨script, generated, Option.some.inj (answered.symm.trans (shown _ sound isOpen))⟩

theorem script_among_other_clients :
    let body := "\x7b\"lookback\": \"60\"\x7d"
    let event : Event := .call "" ⟨"POST", "/api/indicator/pinescript", body⟩
    let history : List Event := [.connect "a", event, .session "a" (.text "\x7b\x7d"), .connect "b"]
    event.Open (run (fresh 1) history) ∧ ¬event.AsksForStats ∧
      ∃ answer request present, answerAfter 1 history event = some answer ∧
        answerAlone 256 event = some answer ∧ event.AsksForScript request present ∧
        ∃ script, Script.generate request.toConfig = .ok script ∧ answer = present script := by
  intro body event history
  have other : ¬event.AsksForStats := by
    rintro ⟨path, _⟩
    exact absurd path (by decide)
  obtain ⟨answer, answered, same, shows⟩ :=
    @answer_eq_answerAlone 1 256 history event trivial other
  have index : (Http.Submission.ofBody body).ctorIdx = 0 := by decide +kernel
  cases submitted : Http.Submission.ofBody body with
  | accepted request =>
      have asks : event.AsksForScript request _ := .script rfl rfl submitted
      exact ⟨trivial, other, answer, _, _, answered, same, asks, shows _ _ asks⟩
  | refused response =>
      rw [submitted] at index
      cases index

end App
end IndicatorDesigner
