import IndicatorDesigner.Proofs.Issues
import IndicatorDesigner.Proofs.Trace

/-!
One object submitted in three ways: as the settings of a message, as the body of a call for a script
and as the body of a call for a file. Whatever happened before, either all three are accepted and
show one script, or all three are rejected for the same reasons, as long as the object itself can be
sent back.
-/
namespace IndicatorDesigner

namespace Http

/-- A body that is read as a value. -/
def Submission.Reads (body : String) (v : Value) : Prop :=
  body ≠ "" ∧ ∃ points, Json.decodeBody? body = some points ∧
    Json.readPoints Json.maxDepth points = .ok v

theorem Submission.Reads.ofBody {body : String} {v : Value} (h : Reads body v) :
    Submission.ofBody body = .ofValue v := by
  obtain ⟨some, points, decoded, read⟩ := h
  rw [Submission.ofBody, if_neg some, decoded]
  simp only [read]

/-- The calls for a script and for a file take settings. -/
theorem respond_submission (now body : String) (c : Cache) {endpoint : Endpoint}
    (h : endpoint ∈ [.script, .download]) :
    respond .scripts now c ⟨"POST", endpoint.path, body⟩ =
      endpoint.answer .scripts now c body := by
  have known : Endpoint.ofPath? endpoint.path = some endpoint ∧ endpoint.methods = ["POST"] := by
    revert endpoint
    decide
  simp [respond, known.1, known.2]

theorem respond_refused {now body : String} {c : Cache} {endpoint : Endpoint} {response : Response}
    (h : endpoint ∈ [.script, .download]) (refused : Submission.ofBody body = .refused response) :
    respond .scripts now c ⟨"POST", endpoint.path, body⟩ = ⟨response, [], c⟩ := by
  rw [respond_submission now body c h]
  rcases List.mem_cons.mp h with rfl | h
  · simp only [Endpoint.answer, refused]
  · obtain rfl := List.mem_singleton.mp h
    simp only [Endpoint.answer, refused]

end Http

/-- Only settings without entries count as false, and no entries are taken in their place. -/
theorem Message.ofValue_generate (id : Value) (entries : List (Chars × Value)) :
    Message.ofValue
        (.object [("type", .text "generate"), ("id", id), ("config", .object entries)]) =
      .generate id (.object entries) := by
  cases entries with
  | nil => rfl
  | cons entry rest => rfl

namespace App

/-- The answers to one object, submitted in a message with an id and to the two calls for a script
and a file, agree: all show the script of the settings or all show the same errors. -/
inductive Agree (v id : Value) : Answer → Answer → Answer → Prop
  | accepted {request : Request} {script : String} {data : Value} {entries : List Log.Entry}
      (judged : Request.ofValue v = .ok request)
      (made : Script.generate request.toConfig = .ok script)
      (shown : data = .object [("pinescript", .text script), ("config", request.toConfig.toValue),
        ("line_count", .int (script.toList.count '\n'))]) :
      Agree v id
        (.session [Json.write (.object [("type", .text "pinescript"), ("id", id), ("data", data)])]
          entries true)
        (.http ⟨200, some "application/json", none, Json.write data⟩ entries)
        (.http (Http.fileResponse script) [])
  | rejected {issues : List Issue} {errors details : List Value} {response : Http.Response}
      (judged : Request.ofValue v = .error issues)
      (same : List.Forall₂ Http.Corresponds errors details)
      (shown : response = ⟨422, some "application/json", none,
        Json.write (.object [("detail", .list details)])⟩) :
      Agree v id
        (.session [Json.write (.object [("type", .text "error"), ("id", id),
          ("errors", .list errors)])] [] true)
        (.http response []) (.http response [])

section Rejected
variable {entries : List (Chars × Value)} {issues : List Issue} {s : Session.State}

theorem step_rejected_message {id : Value} {client text : String}
    (read : Json.read text = .ok (.object [("type", .text "generate"), ("id", id),
      ("config", .object entries)]))
    (judged : Request.ofValue (.object entries) = .error issues)
    (connected : (s.hub.client client).connected = true) :
    (step s (.session client (.text text))).1 =
      some (.session [Json.write (.object [("type", .text "error"), ("id", id),
        ("errors", .list (issues.map Issue.toValue))])] [] true) := by
  have handled : (Message.ofValue (.object [("type", .text "generate"), ("id", id),
      ("config", .object entries)])).reply .scripts s.cache =
        .ok (.rejected id issues, s.cache) := by
    rw [Message.ofValue_generate, Message.reply_of_rejected s.cache id judged]
  have decided : Session.respond .scripts s.cache (.text text) =
      ⟨.send (Json.write (Reply.rejected id issues).toValue) .reply, [], s.cache⟩ :=
    Session.answerText_handled (Session.ne_ping_of_read read) read handled
  obtain ⟨hub, stepped⟩ := step_session (.text text) connected
  rw [stepped, decided]
  rfl

/-- A call for a script or a file, with a body. -/
def submitting (now body : String) (endpoint : Http.Endpoint) : Event :=
  .call now ⟨"POST", endpoint.path, body⟩

theorem step_rejected_call {body : String} (now : String) {endpoint : Http.Endpoint}
    (h : endpoint ∈ [.script, .download]) (reads : Http.Submission.Reads body (.object entries))
    (judged : Request.ofValue (.object entries) = .error issues) :
    (step s (submitting now body endpoint)).1 = some (.http
      (.json 422 (.object [("detail", .list (Http.details issues))])) []) := by
  have refused : Http.Submission.ofBody body =
      .refused (.json 422 (.object [("detail", .list (Http.details issues))])) := by
    rw [reads.ofBody, Http.Submission.ofValue, judged]
    exact congrArg Http.Submission.refused (Http.rejected_eq issues)
  rw [submitting, step, Http.respond_refused h refused]

end Rejected

/-- An object that can be sent is accepted or rejected alike in all three ways, each after a run of
its own: with one script, or with the same errors in the same order. -/
theorem answers_agree {entries : List (Chars × Value)} {id : Value}
    {client text body now later : String} {size size' size'' : Int}
    {history history' history'' : List Event}
    (message : Json.read text = .ok (.object [("type", .text "generate"), ("id", id),
      ("config", .object entries)]))
    (reads : Http.Submission.Reads body (.object entries))
    (sendable : Http.canSend (.object entries) = true)
    (isOpen : ((run (fresh size) history).hub.client client).connected = true) :
    ∃ a b c, answerAfter size history (.session client (.text text)) = some a ∧
      answerAfter size' history' (submitting now body .script) = some b ∧
      answerAfter size'' history'' (submitting later body .download) = some c ∧
      Agree (.object entries) id a b c := by
  cases judged : Request.ofValue (.object entries) with
  | ok request =>
      have accepted : Http.Submission.ofBody body = .accepted request := by
        rw [reads.ofBody, Http.Submission.ofValue, judged]
      have sound (size : Int) (history : List Event) := sound_run (sound_fresh size) history
      have byMessage : Event.AsksForScript (.session client (.text text)) request _ :=
        .message message (Message.ofValue_generate id entries) judged
      have byCall : Event.AsksForScript (submitting now body .script) request _ :=
        .script rfl rfl accepted
      have byDownload : Event.AsksForScript (submitting later body .download) request _ :=
        .download rfl rfl accepted
      obtain ⟨script, made, replied⟩ := script_of_step byMessage
      obtain ⟨script', made', answered⟩ := script_of_step byCall
      obtain ⟨script'', made'', downloaded⟩ := script_of_step byDownload
      obtain rfl : script = script' := Except.ok.inj (made.symm.trans made')
      obtain rfl : script = script'' := Except.ok.inj (made.symm.trans made'')
      exact ⟨_, _, _, replied _ (sound size history) isOpen,
        answered _ (sound size' history') trivial, downloaded _ (sound size'' history'') trivial,
        .accepted judged made rfl⟩
  | error issues =>
      have sent := Http.canSend_details judged sendable
      refine ⟨_, _, _, step_rejected_message message judged isOpen,
        step_rejected_call now (by decide) reads judged,
        step_rejected_call later (by decide) reads judged, ?_⟩
      have response : Http.Response.json 422 (.object [("detail", .list (Http.details issues))]) =
          ⟨422, some "application/json", none, _⟩ := if_pos sent
      exact .rejected judged (Http.corresponds_issues judged) response

theorem rejections_agree :
    let entries : List (Chars × Value) := [("lookback", .int 1), ("_sale", .text "x")]
    let config := "\x7b\"lookback\":1,\"_sale\":\"x\"\x7d"
    let text := "\x7b\"type\":\"generate\",\"id\":[7],\"config\":" ++ config ++ "\x7d"
    let history : List Event := [.connect "b", .session "b" .disconnect]
    Json.read text = .ok (.object [("type", .text "generate"), ("id", .list [.int 7]),
        ("config", .object entries)]) ∧
      Http.Submission.Reads config (.object entries) ∧ Http.canSend (.object entries) = true ∧
      ∃ a b c, answerAfter 0 [.connect "a"] (.session "a" (.text text)) = some a ∧
        answerAfter 1 history (submitting "" config .script) = some b ∧
        answerAfter 256 [] (submitting "" config .download) = some c ∧
        Agree (.object entries) (.list [.int 7]) a b c := by
  intro entries config text history
  have message : Json.read text = .ok (.object [("type", .text "generate"),
      ("id", .list [.int 7]), ("config", .object entries)]) := by
    decide +kernel
  have reads : Http.Submission.Reads config (.object entries) :=
    ⟨by decide, Text.points config, by decide +kernel, by decide +kernel⟩
  exact ⟨message, reads, rfl, answers_agree message reads rfl rfl⟩

/-- Half of a surrogate pair is an error that a message tells, but no answer over HTTP can send it
back: the two calls fail. -/
theorem broken_text_fails_over_http :
    let v : Value := .object [("lookback", .broken [0xd800])]
    let config := "\x7b\"lookback\":\"\\ud800\"\x7d"
    let text := "\x7b\"type\":\"generate\",\"id\":1,\"config\":" ++ config ++ "\x7d"
    Json.read text = .ok (.object [("type", .text "generate"), ("id", .int 1), ("config", v)]) ∧
      Http.Submission.Reads config v ∧
      (∃ reply, answerAfter 256 [.connect "a"] (.session "a" (.text text)) =
        some (.session [reply] [] true)) ∧
      answerAfter 256 [] (submitting "" config .script) =
        some (.http .serverError []) ∧
      answerAfter 256 [] (submitting "" config .download) =
        some (.http .serverError []) ∧
      ∀ a, ¬Agree v (.int 1) a (.http .serverError []) (.http .serverError []) := by
  intro v config text
  have message : Json.read text =
      .ok (.object [("type", .text "generate"), ("id", .int 1), ("config", v)]) := by
    decide +kernel
  have reads : Http.Submission.Reads config v :=
    ⟨by decide, Text.points config, by decide +kernel, by decide +kernel⟩
  have judged : Request.ofValue v = .error [⟨["lookback"], .brokenText, .broken [0xd800]⟩] := rfl
  refine ⟨message, reads, ?_, ?_, ?_, ?_⟩
  · exact ⟨_, step_rejected_message message judged rfl⟩
  · exact step_rejected_call "" (by decide) reads judged
  · exact step_rejected_call "" (by decide) reads judged
  · intro a agree
    cases agree with
    | rejected _ _ shown => cases shown

end App
end IndicatorDesigner
