import IndicatorDesigner.Proofs.Independence
import IndicatorDesigner.Proofs.Routing

/-!
The trace law of a session. Every event makes it try to send at most one text, told by the event and
the cache alone. The session goes through its events in order up to the first that ends it, stays
connected until then, and reports an error once, at the end, exactly if the event that ends it has
one to report.
-/
namespace IndicatorDesigner

namespace Hub

theorem mem_connected_of_client {h : Hub} {id : String} (hc : (h.client id).connected = true) :
    id ∈ h.connected := by
  rw [client] at hc
  cases hf : h.find? fun c => c.id == id with
  | none =>
      rw [hf] at hc
      cases hc
  | some c =>
      rw [hf] at hc
      have same : c.id = id := by simpa using List.find?_some hf
      exact List.mem_map.mpr ⟨c, List.mem_filter.mpr ⟨List.mem_of_find?_eq_some hf, hc⟩, same⟩

theorem eq_of_mem_put {h : Hub} {c d : Client} (member : d ∈ h.put c) (same : d.id = c.id) :
    d = c := by
  rw [put] at member
  split at member
  · obtain ⟨e, _, rfl⟩ := List.mem_map.mp member
    by_cases he : e.id = c.id
    · simp [he]
    · simp [he] at same
  · rename_i unseen
    rcases List.mem_append.mp member with member | member
    · exact absurd (List.any_eq_true.mpr ⟨d, member, by simpa using same⟩) unseen
    · exact List.mem_singleton.mp member

theorem mem_connected_connect (h : Hub) (id : String) : id ∈ (h.connect id).connected :=
  mem_connected_of_client (connected_connect h id)

theorem not_mem_connected_disconnect (h : Hub) (id : String) :
    id ∉ (h.disconnect id).connected := by
  intro member
  obtain ⟨d, hd, same⟩ := List.mem_map.mp member
  obtain ⟨stored, on⟩ := List.mem_filter.mp hd
  have gone := eq_of_mem_put stored (same.trans (id_client h id).symm)
  rw [gone] at on
  cases on

end Hub

namespace Session

/-- The entries of the object that a message is; what is no object counts as an empty one. -/
def entriesOf : Value → List (Chars × Value)
  | .object entries => entries
  | _ => []

theorem ofValue_eq_ofEntries (v : Value) : Message.ofValue v = Message.ofEntries (entriesOf v) := by
  cases v <;> rfl

/-- The texts that a session tries to send for an event, what is logged of them, and the cache after
it. -/
inductive Attempts (generate : Generator) (cache : Cache) :
    Event → List String → List Log.Entry → Cache → Prop
  | pong : Attempts generate cache (.text "ping") ["pong"] [] cache
  | unreadable {message : String} {reason : Json.Reason} {position : Nat}
      (words : message ≠ "ping") (read : Json.read message = .error (.malformed reason position)) :
      Attempts generate cache (.text message)
        [Json.write (.object [("type", .text "error"), ("id", .null), ("errors", .list [.object
          [("loc", .list []), ("msg", .text "Message is not valid JSON")]])])] [] cache
  | reply {message : String} {v : Value} {reply : Reply} {after : Cache}
      (words : message ≠ "ping") (read : Json.read message = .ok v)
      (handled : (Message.ofEntries (entriesOf v)).reply generate cache = .ok (reply, after)) :
      Attempts generate cache (.text message) [Json.write reply.toValue] reply.entries after
  | keepalive : Attempts generate cache .silence ["ping"] [] cache
  | beyondLimits {message : String} {fault : Json.Fault}
      (words : message ≠ "ping") (read : Json.read message = .error fault)
      (limit : ∀ reason position, fault ≠ .malformed reason position) :
      Attempts generate cache (.text message) [] [] cache
  | unhandled {message : String} {v : Value} {fault : Cache.Fault}
      (words : message ≠ "ping") (read : Json.read message = .ok v)
      (failed : (Message.ofEntries (entriesOf v)).reply generate cache = .error fault) :
      Attempts generate cache (.text message) [] [] cache
  | failure {message : String} : Attempts generate cache (.failure message) [] [] cache
  | disconnect : Attempts generate cache .disconnect [] [] cache

/-- The events that end a session, each with the failure to send, if there is one, and the error
that is reported, if there is one. -/
inductive Ends (generate : Generator) (cache : Cache) :
    Event → Option String → Option String → Prop
  | disconnect {sending : Option String} : Ends generate cache .disconnect sending none
  | failure {message : String} {sending : Option String} :
      Ends generate cache (.failure message) sending (some message)
  | pong {message : String} : Ends generate cache (.text "ping") (some message) (some message)
  | keepalive {message : String} : Ends generate cache .silence (some message) none
  | beyondLimits {message : String} {fault : Json.Fault} {sending : Option String}
      (words : message ≠ "ping") (read : Json.read message = .error fault)
      (limit : ∀ reason position, fault ≠ .malformed reason position) :
      Ends generate cache (.text message) sending (some fault.message)
  | unhandled {message : String} {v : Value} {fault : Cache.Fault} {sending : Option String}
      (words : message ≠ "ping") (read : Json.read message = .ok v)
      (failed : (Message.ofEntries (entriesOf v)).reply generate cache = .error fault) :
      Ends generate cache (.text message) sending (some fault.message)

/-- The texts that a session does try to send for an event. -/
def attempted (generate : Generator) (cache : Cache) (event : Event) : List String :=
  match (respond generate cache event).move with
  | .send text _ => [text]
  | .stop _ => []

section Step
variable {generate : Generator} {cache : Cache} {event : Event}

theorem answerText_ping : answerText generate cache "ping" = ⟨.send "pong" .pong, [], cache⟩ :=
  if_pos rfl

theorem answerText_unreadable {message : String} {reason : Json.Reason} {position : Nat}
    (words : message ≠ "ping") (read : Json.read message = .error (.malformed reason position)) :
    answerText generate cache message =
      ⟨.send (Json.write Reply.unreadable.toValue) .reply, [], cache⟩ := by
  rw [answerText, if_neg words, read]

theorem answerText_beyondLimits {message : String} {fault : Json.Fault} (words : message ≠ "ping")
    (read : Json.read message = .error fault)
    (limit : ∀ reason position, fault ≠ .malformed reason position) :
    answerText generate cache message = ⟨.stop (some fault.message), [], cache⟩ := by
  rw [answerText, if_neg words, read]
  cases fault with
  | malformed reason position => exact absurd rfl (limit reason position)
  | tooLong digits => rfl
  | tooDeep container => rfl

theorem answerText_handled {message : String} {v : Value} {reply : Reply} {after : Cache}
    (words : message ≠ "ping") (read : Json.read message = .ok v)
    (handled : (Message.ofEntries (entriesOf v)).reply generate cache = .ok (reply, after)) :
    answerText generate cache message =
      ⟨.send (Json.write reply.toValue) .reply, reply.entries, after⟩ := by
  rw [answerText, if_neg words, read]
  simp only [answer, ofValue_eq_ofEntries, handled]

theorem answerText_unhandled {message : String} {v : Value} {fault : Cache.Fault}
    (words : message ≠ "ping") (read : Json.read message = .ok v)
    (failed : (Message.ofEntries (entriesOf v)).reply generate cache = .error fault) :
    answerText generate cache message = ⟨.stop (some fault.message), [], cache⟩ := by
  rw [answerText, if_neg words, read]
  simp only [answer, ofValue_eq_ofEntries, failed]

/-- A text other than `ping` is no JSON, beyond the limits of the reader, replied to, or makes the
handling of its message fail. -/
theorem text_cases (generate : Generator) (cache : Cache) (message : String) :
    (∃ reason position, Json.read message = .error (.malformed reason position)) ∨
      (∃ fault, Json.read message = .error fault ∧
        ∀ reason position, fault ≠ .malformed reason position) ∨
      (∃ v reply after, Json.read message = .ok v ∧
        (Message.ofEntries (entriesOf v)).reply generate cache = .ok (reply, after)) ∨
      ∃ v fault, Json.read message = .ok v ∧
        (Message.ofEntries (entriesOf v)).reply generate cache = .error fault := by
  cases read : Json.read message with
  | error fault =>
      cases fault with
      | malformed reason position => exact .inl ⟨reason, position, rfl⟩
      | tooLong digits => exact .inr (.inl ⟨_, rfl, nofun⟩)
      | tooDeep container => exact .inr (.inl ⟨_, rfl, nofun⟩)
  | ok v =>
      cases handled : (Message.ofEntries (entriesOf v)).reply generate cache with
      | ok result => exact .inr (.inr (.inl ⟨v, result.1, result.2, rfl, handled⟩))
      | error fault => exact .inr (.inr (.inr ⟨v, fault, rfl, handled⟩))

/-- What a session tries to send is exactly what the event and the cache tell. -/
theorem attempts_iff {texts : List String} {entries : List Log.Entry} {after : Cache} :
    Attempts generate cache event texts entries after ↔
      texts = attempted generate cache event ∧ entries = (respond generate cache event).entries ∧
        after = (respond generate cache event).cache := by
  constructor
  · intro attempts
    cases attempts with
    | unreadable words read =>
        rw [attempted, respond, answerText_unreadable words read]
        exact ⟨rfl, rfl, rfl⟩
    | reply words read handled =>
        rw [attempted, respond, answerText_handled words read handled]
        exact ⟨rfl, rfl, rfl⟩
    | beyondLimits words read limit =>
        rw [attempted, respond, answerText_beyondLimits words read limit]
        exact ⟨rfl, rfl, rfl⟩
    | unhandled words read failed =>
        rw [attempted, respond, answerText_unhandled words read failed]
        exact ⟨rfl, rfl, rfl⟩
    | _ => exact ⟨rfl, rfl, rfl⟩
  · rintro ⟨rfl, rfl, rfl⟩
    cases event with
    | text message =>
        rw [attempted, respond]
        by_cases words : message = "ping"
        · subst words
          rw [answerText_ping]
          exact .pong
        · rcases text_cases generate cache message with ⟨reason, position, read⟩ |
            ⟨fault, read, limit⟩ | ⟨v, reply, after, read, handled⟩ | ⟨v, fault, read, failed⟩
          · rw [answerText_unreadable words read]
            exact .unreadable words read
          · rw [answerText_beyondLimits words read limit]
            exact .beyondLimits words read limit
          · rw [answerText_handled words read handled]
            exact .reply words read handled
          · rw [answerText_unhandled words read failed]
            exact .unhandled words read failed
    | silence => exact .keepalive
    | failure message => exact .failure
    | disconnect => exact .disconnect

theorem Attempts.length_le_one {texts : List String} {entries : List Log.Entry} {after : Cache}
    (h : Attempts generate cache event texts entries after) : texts.length ≤ 1 := by
  cases h <;> simp

/-- An event that ends a session sends nothing and leaves the cache as it was. -/
theorem Ends.respond_eq {sending reported : Option String}
    (h : Ends generate cache event sending reported) :
    (respond generate cache event).move.outcome sending =
      ⟨[], reported.toList.map errorEntry, false⟩ ∧
      (respond generate cache event).entries = [] ∧
      (respond generate cache event).cache = cache := by
  cases h with
  | disconnect => exact ⟨rfl, rfl, rfl⟩
  | failure => exact ⟨rfl, rfl, rfl⟩
  | pong => exact ⟨rfl, rfl, rfl⟩
  | keepalive => exact ⟨rfl, rfl, rfl⟩
  | beyondLimits words read limit =>
      rw [respond, answerText_beyondLimits words read limit]
      exact ⟨rfl, rfl, rfl⟩
  | unhandled words read failed =>
      rw [respond, answerText_unhandled words read failed]
      exact ⟨rfl, rfl, rfl⟩

/-- An event that does not end a session is one whose text is sent, or replies to a message. -/
theorem outcome_cases (generate : Generator) (cache : Cache) (event : Event)
    (sending : Option String) :
    (∃ reported, Ends generate cache event sending reported) ∨
      (respond generate cache event).move.outcome sending =
        ⟨if sending = none then attempted generate cache event else [],
          sending.toList.map Hub.sendFailedEntry, true⟩ := by
  cases event with
  | text message =>
      by_cases words : message = "ping"
      · subst words
        cases sending with
        | none => exact .inr rfl
        | some reason => exact .inl ⟨_, .pong⟩
      · rcases text_cases generate cache message with ⟨reason, position, read⟩ |
          ⟨fault, read, limit⟩ | ⟨v, reply, after, read, handled⟩ | ⟨v, fault, read, failed⟩
        · rw [attempted, respond, answerText_unreadable words read]
          cases sending <;> exact .inr rfl
        · exact .inl ⟨_, .beyondLimits words read limit⟩
        · rw [attempted, respond, answerText_handled words read handled]
          cases sending <;> exact .inr rfl
        · exact .inl ⟨_, .unhandled words read failed⟩
  | silence =>
      cases sending with
      | none => exact .inr rfl
      | some reason => exact .inl ⟨_, .keepalive⟩
  | failure message => exact .inl ⟨_, .failure⟩
  | disconnect => exact .inl ⟨_, .disconnect⟩

end Step

/-- The message of an entry that reports an error of a session. -/
def reported? (entry : Log.Entry) : Option String :=
  if entry.level = Log.Level.warning then Log.afterStart? "[WebSocket] Error: " entry.message
  else none

theorem reported?_errorEntry (message : String) :
    reported? (errorEntry message) = some message := by
  rw [errorEntry, Log.Entry.warning, reported?, if_pos rfl, Log.afterStart?_eq_some_iff]

theorem reported?_sendFailedEntry (message : String) :
    reported? (Hub.sendFailedEntry message) = none := by
  have start : "[WebSocket] Error: ".toList.isPrefixOf
      ("[WebSocket] Error sending to client: " ++ message).toList = false := by
    rw [String.toList_append]
    rfl
  rw [Hub.sendFailedEntry, Log.Entry.warning, reported?, if_pos rfl, Log.afterStart?, start]
  rfl

theorem reported_errorEntries (reported : Option String) :
    (reported.toList.map errorEntry).filterMap reported? = reported.toList := by
  cases reported with
  | none => rfl
  | some message => simp [reported?_errorEntry]

theorem reported_sendFailed (sending : Option String) :
    (sending.toList.map Hub.sendFailedEntry).filterMap reported? = [] := by
  cases sending with
  | none => rfl
  | some message => simp [reported?_sendFailedEntry]

theorem Attempts.reported {generate : Generator} {cache after : Cache} {event : Event}
    {texts : List String} {entries : List Log.Entry}
    (h : Attempts generate cache event texts entries after) : entries.filterMap reported? = [] := by
  cases h with
  | @reply message v reply after words read handled =>
      cases reply with
      | ready id payload => rfl
      | _ => rfl
  | _ => rfl

/-- A session that goes through events in order: the steps it takes, the error it ends with, if it
ends, the events left, and the state after it. -/
inductive Trace (generate : Generator) (id : String) :
    State → List (Event × Option String) → List Step → Option (Option String) →
      List (Event × Option String) → State → Prop
  | still {s : State} (connected : id ∈ s.hub.connected) : Trace generate id s [] [] none [] s
  | goesOn {s final : State} {event : Event} {sending : Option String} {entries : List Log.Entry}
      {after : Cache} {rest left : List (Event × Option String)} {steps : List Step}
      {ending : Option (Option String)}
      (connected : id ∈ s.hub.connected)
      (attempts : Attempts generate s.cache event (attempted generate s.cache event) entries after)
      (goesOn : ∀ reported, ¬Ends generate s.cache event sending reported)
      (later : Trace generate id ⟨s.hub, after⟩ rest steps ending left final) :
      Trace generate id s ((event, sending) :: rest)
        (⟨if sending = none then attempted generate s.cache event else [],
          entries ++ sending.toList.map Hub.sendFailedEntry, s.hub.count⟩ :: steps)
        ending left final
  | ends {s : State} {event : Event} {sending reported : Option String}
      {rest : List (Event × Option String)} {entries : List Log.Entry} {after : Cache}
      (connected : id ∈ s.hub.connected)
      (attempts : Attempts generate s.cache event (attempted generate s.cache event) entries after)
      (ends : Ends generate s.cache event sending reported) :
      Trace generate id s ((event, sending) :: rest)
        [⟨[], reported.toList.map errorEntry ++ [(s.hub.disconnect id).disconnectEntry],
          (s.hub.disconnect id).count⟩]
        (some reported) rest ⟨s.hub.disconnect id, s.cache⟩

section Run
variable {generate : Generator} {id : String}

/-- One event takes one step of the trace. -/
theorem step_cases (s : State) (event : Event) (sending : Option String) :
    (∃ reported, Ends generate s.cache event sending reported ∧
      step generate id s event sending =
        (false, ⟨[], reported.toList.map errorEntry ++ [(s.hub.disconnect id).disconnectEntry],
          (s.hub.disconnect id).count⟩, ⟨s.hub.disconnect id, s.cache⟩)) ∨
      ((∀ reported, ¬Ends generate s.cache event sending reported) ∧
        step generate id s event sending =
          (true, ⟨if sending = none then attempted generate s.cache event else [],
            (respond generate s.cache event).entries ++ sending.toList.map Hub.sendFailedEntry,
            s.hub.count⟩, ⟨s.hub, (respond generate s.cache event).cache⟩)) := by
  rcases outcome_cases generate s.cache event sending with ⟨reported, ends⟩ | goesOn
  · obtain ⟨outcome, silent, kept⟩ := ends.respond_eq
    refine .inl ⟨reported, ends, ?_⟩
    simp only [step, outcome, silent, kept, List.nil_append]
    rfl
  · refine .inr ⟨?_, ?_⟩
    · intro reported ends
      rw [ends.respond_eq.1] at goesOn
      cases congrArg Outcome.goesOn goesOn
    · simp only [step, goesOn, if_true]

theorem run_of_ended {s after : State} {event : Event} {sending : Option String} {taken : Step}
    (h : step generate id s event sending = (false, taken, after))
    (rest : List (Event × Option String)) :
    run generate id s ((event, sending) :: rest) = ([taken], rest, after) := by
  rw [run, h]

theorem run_of_goesOn {s after : State} {event : Event} {sending : Option String} {taken : Step}
    (h : step generate id s event sending = (true, taken, after))
    (rest : List (Event × Option String)) :
    run generate id s ((event, sending) :: rest) = (taken :: (run generate id after rest).1,
      (run generate id after rest).2.1, (run generate id after rest).2.2) := by
  rw [run, h]

theorem run_trace {s : State} (connected : id ∈ s.hub.connected)
    (events : List (Event × Option String)) :
    ∃ ending, Trace generate id s events (run generate id s events).1 ending
      (run generate id s events).2.1 (run generate id s events).2.2 := by
  -- The state is general because every reply may change the cache; the clients stay the same.
  induction events generalizing s with
  | nil => exact ⟨none, .still connected⟩
  | cons head rest ih =>
      obtain ⟨event, sending⟩ := head
      have attempts : Attempts generate s.cache event (attempted generate s.cache event) _ _ :=
        attempts_iff.mpr ⟨rfl, rfl, rfl⟩
      rcases step_cases s event sending with ⟨reported, ends, taken⟩ | ⟨goesOn, taken⟩
      · refine ⟨some reported, ?_⟩
        rw [run_of_ended taken]
        exact .ends connected attempts ends
      · obtain ⟨ending, later⟩ := @ih ⟨s.hub, (respond generate s.cache event).cache⟩ connected
        refine ⟨ending, ?_⟩
        rw [run_of_goesOn taken]
        exact .goesOn connected attempts goesOn later

variable {s final : State} {events left : List (Event × Option String)} {steps : List Step}
  {ending : Option (Option String)}

/-- Exactly the events after the last step are left. -/
theorem Trace.left_eq (h : Trace generate id s events steps ending left final) :
    left = events.drop steps.length ∧ (ending = none → left = []) := by
  induction h with
  | still connected => exact ⟨rfl, fun _ => rfl⟩
  | goesOn connected attempts goesOn later ih => exact ih
  | ends connected attempts ends => exact ⟨rfl, nofun⟩

theorem Trace.connected_iff (h : Trace generate id s events steps ending left final) :
    id ∈ final.hub.connected ↔ ending = none := by
  induction h with
  | still connected => exact iff_of_true connected rfl
  | goesOn connected attempts goesOn later ih => exact ih
  | ends connected attempts ends =>
      exact iff_of_false (Hub.not_mem_connected_disconnect _ id) nofun

/-- The only error that is reported is the one that the session ends with. -/
theorem Trace.reported (h : Trace generate id s events steps ending left final) :
    (steps.flatMap Step.entries).filterMap reported? = ending.join.toList := by
  induction h with
  | still connected => rfl
  | goesOn connected attempts goesOn later ih =>
      rw [List.flatMap_cons, List.filterMap_append, List.filterMap_append, attempts.reported,
        reported_sendFailed, ih]
      rfl
  | ends connected attempts ends =>
      rw [List.flatMap_cons, List.flatMap_nil, List.append_nil, List.filterMap_append,
        reported_errorEntries]
      exact List.append_nil _

theorem Trace.sent_le_one (h : Trace generate id s events steps ending left final) :
    ∀ taken ∈ steps, taken.sent.length ≤ 1 := by
  induction h with
  | still connected => exact fun _ member => absurd member List.not_mem_nil
  | goesOn connected attempts goesOn later ih =>
      intro taken member
      rcases List.mem_cons.mp member with rfl | member
      · dsimp only
        split
        · exact attempts.length_le_one
        · exact Nat.zero_le 1
      · exact ih taken member
  | ends connected attempts ends =>
      intro taken member
      rw [List.mem_singleton.mp member]
      exact Nat.zero_le 1

/-- Whatever happens and whichever sends fail, a session goes through its events in order up to the
first that ends it, and leaves exactly the later ones. It sends at most one text for each, is
connected after its start and until it ends, and no longer then, and reports the error that it ends
with, if there is one, and nothing else. -/
theorem run_start_trace (generate : Generator) (id : String) (before : State)
    (events : List (Event × Option String)) :
    let opened := (start id before).2
    let (steps, left, final) := run generate id opened events
    id ∈ opened.hub.connected ∧ ∃ ending,
      Trace generate id opened events steps ending left final ∧
      left = events.drop steps.length ∧ (ending = none → left = []) ∧
      (∀ taken ∈ steps, taken.sent.length ≤ 1) ∧
      (id ∈ final.hub.connected ↔ ending = none) ∧
      (steps.flatMap Step.entries).filterMap reported? = ending.join.toList := by
  intro opened
  have connected : id ∈ opened.hub.connected := Hub.mem_connected_connect before.hub id
  obtain ⟨ending, trace⟩ := run_trace connected events
  exact ⟨connected, ending, trace, trace.left_eq.1, trace.left_eq.2, trace.sent_le_one,
    trace.connected_iff, trace.reported⟩

end Run
end Session
end IndicatorDesigner
