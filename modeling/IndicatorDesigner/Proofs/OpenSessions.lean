import IndicatorDesigner.Proofs.Limits
import IndicatorDesigner.Proofs.Trace

/-!
What a text can do to an open live preview. In every state that a service gets into, a text within
the limits of the reader is answered once and the preview stays open; a text beyond them ends it
without an answer.
-/
namespace IndicatorDesigner

namespace Session

/-- From a sound cache every message is replied to. -/
theorem reply_of_sound {c : Cache} (sound : c.Sound) (m : Message) :
    ∃ reply after, m.reply .scripts c = .ok (reply, after) := by
  cases m with
  | defaults id => exact ⟨_, _, rfl⟩
  | unknown id kind => exact ⟨_, _, rfl⟩
  | generate id config =>
      cases judged : Request.ofValue config with
      | error issues => exact ⟨_, _, Message.reply_of_rejected c id judged⟩
      | ok request =>
          obtain ⟨script, generated, _⟩ := Script.generate_inRange (Request.inRange judged)
          obtain ⟨after, _, replied⟩ := Message.reply_of_accepted sound id judged generated
          exact ⟨_, _, replied⟩

/-- A text ends a session, when sending works, exactly if it is beyond the limits of the reader. -/
theorem ends_text_iff {c : Cache} (sound : c.Sound) (message : String) :
    (∃ reported, Ends .scripts c (.text message) none reported) ↔ ¬Json.Readable message := by
  constructor
  · rintro ⟨reported, ends⟩ readable
    cases ends with
    | @beyondLimits _ fault _ words read limit =>
        cases fault with
        | malformed reason position => exact limit reason position rfl
        | tooLong digits => exact readable _ read
        | tooDeep container => exact readable _ read
    | unhandled words read failed =>
        obtain ⟨reply, after, handled⟩ := reply_of_sound sound (Message.ofEntries (entriesOf _))
        rw [handled] at failed
        cases failed
  · intro beyond
    rw [Json.Readable, not_forall] at beyond
    obtain ⟨fault, beyond⟩ := beyond
    obtain ⟨read, limit⟩ := Classical.not_imp.mp beyond
    have words : message ≠ "ping" := by
      rintro rfl
      have plain : Json.read "ping" = .error (.malformed .value 0) := by decide
      rw [plain] at read
      cases read
      exact limit trivial
    refine ⟨_, .beyondLimits words read ?_⟩
    rintro reason position rfl
    exact limit trivial

/-- Whatever is tried to be sent for a text that does not end a session is one text. -/
theorem Attempts.eq_singleton {generate : Generator} {c after : Cache} {message : String}
    {texts : List String} {entries : List Log.Entry}
    (h : Attempts generate c (.text message) texts entries after)
    (goesOn : ∀ reported, ¬Ends generate c (.text message) none reported) :
    ∃ answer, texts = [answer] := by
  cases h with
  | beyondLimits words read limit => exact absurd (.beyondLimits words read limit) (goesOn _)
  | unhandled words read failed => exact absurd (.unhandled words read failed) (goesOn _)
  | _ => exact ⟨_, rfl⟩

end Session

namespace App

/-- The states that a service gets into, by calls, by new previews and by the events of open ones,
whichever texts fail to be sent. -/
inductive Reachable (size : Int) : Session.State → Prop
  | fresh : Reachable size (fresh size)
  | call {s : Session.State} (reached : Reachable size s) (now : String) (call : Http.Call) :
      Reachable size { s with cache := (Http.respond .scripts now s.cache call).cache }
  | connect {s : Session.State} (reached : Reachable size s) (client : String) :
      Reachable size (Session.start client s).2
  | session {s : Session.State} (reached : Reachable size s) {client : String}
      (connected : client ∈ s.hub.connected) (event : Session.Event) (sending : Option String) :
      Reachable size (Session.step .scripts client s event sending).2.2

/-- The cache of a reachable state holds scripts of settings in range only. -/
theorem Reachable.sound {size : Int} {s : Session.State} (h : Reachable size s) :
    s.cache.Sound := by
  induction h with
  | fresh => exact sound_fresh size
  | call reached now call ih => exact sound_respond now call ih
  | connect reached client ih => exact ih
  | @session s reached client connected event sending ih =>
      rcases @Session.step_cases .scripts client s event sending with
        ⟨_, _, taken⟩ | ⟨_, taken⟩
      · rw [taken]
        exact ih
      · rw [taken]
        exact Session.sound_respond ih event

/-- In every state that a service gets into, a text within the limits of the reader is answered with
one text and leaves the preview open. One beyond them is not answered and ends the preview. A text
of at most 970 opening brackets and 4300 digits is within the limits. -/
theorem readable_text_keeps_session_open {size : Int} {s : Session.State} {client text : String}
    (reached : Reachable size s) (connected : client ∈ s.hub.connected) :
    let result := Session.step .scripts client s (.text text) none
    (Json.Readable text → result.1 = true ∧ client ∈ result.2.2.hub.connected ∧
      ∃ answer entries after, result.2.1.sent = [answer] ∧
        Session.Attempts .scripts s.cache (.text text) [answer] entries after) ∧
    (¬Json.Readable text → result.1 = false ∧ client ∉ result.2.2.hub.connected ∧
      result.2.1.sent = []) ∧
    (text.toList.countP (fun c => c == '[' || c == '\x7b') ≤ 970 →
      text.toList.countP Char.isDigit ≤ 4300 → Json.Readable text) := by
  intro result
  have ends := Session.ends_text_iff reached.sound text
  refine ⟨?_, ?_, Json.readable_of_few⟩
  · intro readable
    rcases @Session.step_cases .scripts client s (.text text) none with
      ⟨reported, ended, _⟩ | ⟨goesOn, taken⟩
    · exact absurd readable (ends.mp ⟨reported, ended⟩)
    · have attempts : Session.Attempts .scripts s.cache (.text text) _ _ _ :=
        Session.attempts_iff.mpr ⟨rfl, rfl, rfl⟩
      obtain ⟨answer, single⟩ := attempts.eq_singleton goesOn
      rw [single] at attempts
      rw [show result = _ from taken]
      exact ⟨rfl, connected, answer, _, _, single, attempts⟩
  · intro beyond
    obtain ⟨reported, ended⟩ := ends.mpr beyond
    rcases @Session.step_cases .scripts client s (.text text) none with
      ⟨_, _, taken⟩ | ⟨goesOn, _⟩
    · rw [show result = _ from taken]
      exact ⟨rfl, Hub.not_mem_connected_disconnect s.hub client, rfl⟩
    · exact absurd ended (goesOn reported)

theorem broken_text_keeps_session_open :
    let s := (Session.step .scripts "a" (Session.start "a" (fresh 0)).2 (.text "[]")
      (some "gone")).2.2
    let text := "\x7b\"type\":\"generate\",\"config\":[[-1e400,\"\\ud800\"]"
    Reachable 0 s ∧ "a" ∈ s.hub.connected ∧ Json.Readable text ∧
      let result := Session.step .scripts "a" s (.text text) none
      result.1 = true ∧ "a" ∈ result.2.2.hub.connected ∧ ∃ answer, result.2.1.sent = [answer] := by
  intro s text
  have reached : Reachable 0 s :=
    .session (.connect .fresh "a") (by decide) (.text "[]") (some "gone")
  have connected : "a" ∈ s.hub.connected := by decide +kernel
  obtain ⟨keeps, _, few⟩ := @readable_text_keeps_session_open 0 s "a" text reached connected
  have readable : Json.Readable text := few (by decide) (by decide)
  obtain ⟨goesOn, still, answer, _, _, sent, _⟩ := keeps readable
  exact ⟨reached, connected, readable, goesOn, still, answer, sent⟩

/-- A submitted period of 4301 digits ends the preview without an answer. -/
theorem long_number_ends_session :
    let s := (Session.start "a" (fresh 256)).2
    let text := "\x7b\"type\":\"generate\",\"id\":1,\"config\":\x7b\"lookback\":" ++
      String.ofList (List.replicate 4301 '1') ++ "\x7d\x7d"
    Reachable 256 s ∧ "a" ∈ s.hub.connected ∧
      let result := Session.step .scripts "a" s (.text text) none
      result.1 = false ∧ "a" ∉ result.2.2.hub.connected ∧ result.2.1.sent = [] := by
  intro s text
  have spelled : text.toList =
      "\x7b\"type\":\"generate\",\"id\":1,\"config\":\x7b\"lookback\":".toList ++
        List.replicate 4301 '1' ++ "\x7d\x7d".toList := by
    simp only [text, String.toList_append, String.toList_ofList]
  have read : Json.read text = .error (.tooLong 4301) := by
    rw [Json.read, Text.points, spelled]
    decide +kernel
  have words : text ≠ "ping" := by
    intro same
    rw [same] at read
    exact absurd read (by decide)
  have limit : ∀ reason position, Json.Fault.tooLong 4301 ≠ .malformed reason position := by
    rintro reason position ⟨⟩
  have ends : Session.Ends .scripts s.cache (.text text) none _ :=
    .beyondLimits words read limit
  refine ⟨.connect .fresh "a", by decide, ?_⟩
  rcases @Session.step_cases .scripts "a" s (.text text) none with ⟨_, _, taken⟩ | ⟨goesOn, _⟩
  · rw [taken]
    exact ⟨rfl, Hub.not_mem_connected_disconnect s.hub "a", rfl⟩
  · exact absurd ends (goesOn _)

end App
end IndicatorDesigner
