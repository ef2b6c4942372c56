import IndicatorDesigner.Proofs.Agreement
import IndicatorDesigner.Proofs.OpenSessions

/-!
The statuses of the two calls that take settings. A body is read as a value or not; what is read is
accepted or rejected, and a body that is not read is no JSON or is given up on. Only a rejection
that would have to show what cannot be sent makes the server fail.
-/
namespace IndicatorDesigner

/-- An issue of a value that can be sent shows something that can be sent. -/
theorem Request.canSend_of_mem_issues {v : Value} {i : Issue} (member : i ∈ issues v)
    (whole : Http.canSend v = true) : Http.canSend i.input = true := by
  cases judged : ofValue v with
  | ok request =>
      rw [issues, judged] at member
      cases member
  | error wrong =>
      rw [issues, judged] at member
      exact (canSend_of_ofValue judged i member).2 whole

namespace Http

namespace Submission
variable {body : String} {v w : Value}

theorem Reads.unique (hv : Reads body v) (hw : Reads body w) : v = w := by
  obtain ⟨_, points, decoded, read⟩ := hv
  obtain ⟨_, points', decoded', read'⟩ := hw
  obtain rfl : points = points' := Option.some.inj (decoded.symm.trans decoded')
  exact Except.ok.inj (read.symm.trans read')

/-- A body that is given up on: its bytes are no text, or the text is beyond the limits of the
reader. -/
def GivenUp (body : String) : Prop :=
  body ≠ "" ∧ ∀ points, Json.decodeBody? body = some points →
    ∃ fault, Json.readPoints Json.maxDepth points = .error fault ∧
      ∀ reason position, fault ≠ .malformed reason position

theorem givenUp_of_fault {points : List Nat} {fault : Json.Fault} (some : body ≠ "")
    (decoded : Json.decodeBody? body = .some points)
    (read : Json.readPoints Json.maxDepth points = .error fault)
    (limit : ∀ reason position, fault ≠ .malformed reason position) : GivenUp body := by
  refine ⟨some, ?_⟩
  rw [decoded]
  rintro _ ⟨⟩
  exact ⟨fault, read, limit⟩

theorem Reads.not_givenUp (h : Reads body v) : ¬GivenUp body := by
  rintro ⟨_, fails⟩
  obtain ⟨_, points, decoded, read⟩ := h
  obtain ⟨fault, failed, _⟩ := fails points decoded
  rw [read] at failed
  cases failed

theorem refused_of_givenUp (h : GivenUp body) :
    ∃ response, ofBody body = .refused response ∧ response.status = 400 := by
  obtain ⟨some, fails⟩ := h
  refine ⟨.detail 400 "There was an error parsing the body", ?_, rfl⟩
  rw [ofBody, if_neg some]
  cases decoded : Json.decodeBody? body with
  | none => rfl
  | some points =>
      obtain ⟨fault, failed, limit⟩ := fails points decoded
      simp only [failed]
      cases fault with
      | malformed reason position => exact absurd rfl (limit reason position)
      | tooLong digits => rfl
      | tooDeep container => rfl

theorem refused_of_unread (unread : ∀ v, ¬Reads body v) (kept : ¬GivenUp body) :
    ∃ response, ofBody body = .refused response ∧ response.status = 422 := by
  by_cases missing : body = ""
  · exact ⟨.rejected [missingValue], if_pos missing, rfl⟩
  · cases decoded : Json.decodeBody? body with
    | none =>
        refine absurd ⟨missing, ?_⟩ kept
        rw [decoded]
        rintro points ⟨⟩
    | some points =>
        cases read : Json.readPoints Json.maxDepth points with
        | ok v => exact absurd ⟨missing, points, decoded, read⟩ (unread v)
        | error fault =>
            cases fault with
            | malformed reason position =>
                refine ⟨.rejected [notJsonValue reason.message position], ?_, rfl⟩
                simp only [ofBody, if_neg missing, decoded, read]
            | tooLong digits =>
                refine absurd (givenUp_of_fault missing decoded read ?_) kept
                rintro reason position ⟨⟩
            | tooDeep container =>
                refine absurd (givenUp_of_fault missing decoded read ?_) kept
                rintro reason position ⟨⟩

/-- A rejected value is answered with its details, unless they show something that cannot be sent.
-/
theorem refused_of_rejected {issues : List Issue} (h : Request.ofValue v = .error issues) :
    ∃ response, ofValue v = .refused response ∧
      ((response.status = 422 ∧ ∀ i ∈ issues, canSend (visible i.input) = true) ∨
        (response.status = 500 ∧ ∃ i ∈ issues, canSend (visible i.input) = false)) := by
  refine ⟨.rejected (issues.map issueValue), by simp only [ofValue, h], ?_⟩
  have sent := canSend_details_iff h
  rw [rejected_eq, Response.json]
  by_cases shown : ∀ i ∈ issues, canSend (visible i.input) = true
  · rw [if_pos (sent.mpr shown)]
    exact .inl ⟨rfl, shown⟩
  · rw [if_neg (mt sent.mp shown)]
    exact .inr ⟨rfl, by simpa using shown⟩

end Submission

theorem status_of_accepted {c : Cache} (sound : c.Sound) (now : String) {body : String}
    {endpoint : Endpoint} (h : endpoint ∈ [.script, .download]) {request : Request}
    (accepted : Submission.ofBody body = .accepted request) :
    (respond .scripts now c ⟨"POST", endpoint.path, body⟩).response.status = 200 := by
  have range := inRange_of_ofBody accepted
  obtain ⟨script, generated, _⟩ := Script.generate_inRange range
  rw [respond_submission now body c h]
  rcases List.mem_cons.mp h with rfl | h
  · obtain ⟨_, _, answered⟩ := answerScript_eq sound range generated
    simp only [Endpoint.answer, accepted, answered, scriptResponse]
  · obtain rfl := List.mem_singleton.mp h
    obtain ⟨_, _, answered⟩ := answerDownload_eq sound range generated
    simp only [Endpoint.answer, accepted, answered, fileResponse]

open Submission (Reads GivenUp)

/-- What a status says about a body. -/
inductive Verdict (body : String) : Nat → Prop
  | accepted {v : Value} {request : Request} (reads : Reads body v)
      (judged : Request.ofValue v = .ok request) : Verdict body 200
  | givenUp (givenUp : GivenUp body) : Verdict body 400
  | unread (unread : ∀ v, ¬Reads body v) (kept : ¬GivenUp body) : Verdict body 422
  | rejected {v : Value} {issues : List Issue} (reads : Reads body v)
      (judged : Request.ofValue v = .error issues)
      (shown : ∀ i ∈ issues, canSend (visible i.input) = true) : Verdict body 422
  | failed {v : Value} {issues : List Issue} (reads : Reads body v)
      (judged : Request.ofValue v = .error issues)
      (hidden : ∃ i ∈ issues, canSend (visible i.input) = false) : Verdict body 500

section Verdict
variable {body : String} {status : Nat}

theorem Verdict.mem (h : Verdict body status) : status ∈ [200, 400, 422, 500] := by
  cases h <;> decide

theorem Verdict.ok_iff (h : Verdict body status) :
    status = 200 ↔ ∃ v request, Reads body v ∧ Request.ofValue v = .ok request := by
  have rejects {v : Value} {issues : List Issue} (reads : Reads body v)
      (judged : Request.ofValue v = .error issues) :
      ¬∃ v request, Reads body v ∧ Request.ofValue v = .ok request := by
    rintro ⟨w, request, other, accepted⟩
    rw [other.unique reads, judged] at accepted
    cases accepted
  cases h with
  | accepted reads judged => exact iff_of_true rfl ⟨_, _, reads, judged⟩
  | givenUp givenUp =>
      refine iff_of_false (by decide) ?_
      rintro ⟨v, request, reads, _⟩
      exact reads.not_givenUp givenUp
  | unread unread kept =>
      refine iff_of_false (by decide) ?_
      rintro ⟨v, request, reads, _⟩
      exact unread v reads
  | rejected reads judged shown => exact iff_of_false (by decide) (rejects reads judged)
  | failed reads judged hidden => exact iff_of_false (by decide) (rejects reads judged)

theorem Verdict.givenUp_iff (h : Verdict body status) : status = 400 ↔ GivenUp body := by
  cases h with
  | accepted reads judged => exact iff_of_false (by decide) reads.not_givenUp
  | givenUp givenUp => exact iff_of_true rfl givenUp
  | unread unread kept => exact iff_of_false (by decide) kept
  | rejected reads judged shown => exact iff_of_false (by decide) reads.not_givenUp
  | failed reads judged hidden => exact iff_of_false (by decide) reads.not_givenUp

theorem Verdict.failed_iff (h : Verdict body status) : status = 500 ↔ ∃ v, Reads body v ∧
    ∃ i ∈ Request.issues v, canSend (visible i.input) = false := by
  cases h with
  | accepted reads judged =>
      refine iff_of_false (by decide) ?_
      rintro ⟨w, other, i, member, _⟩
      rw [other.unique reads, Request.issues, judged] at member
      cases member
  | givenUp givenUp =>
      refine iff_of_false (by decide) ?_
      rintro ⟨v, reads, _⟩
      exact reads.not_givenUp givenUp
  | unread unread kept =>
      refine iff_of_false (by decide) ?_
      rintro ⟨v, reads, _⟩
      exact unread v reads
  | rejected reads judged shown =>
      refine iff_of_false (by decide) ?_
      rintro ⟨w, other, i, member, hidden⟩
      rw [other.unique reads, Request.issues, judged] at member
      exact absurd (shown i member) (Bool.eq_false_iff.mp hidden)
  | failed reads judged hidden =>
      exact iff_of_true rfl ⟨_, reads, by rwa [Request.issues, judged]⟩

end Verdict

/-- The calls for a script and for a file give one verdict. -/
theorem verdict {c : Cache} (sound : c.Sound) (now body : String) {endpoint : Endpoint}
    (h : endpoint ∈ [.script, .download]) :
    Verdict body (respond .scripts now c ⟨"POST", endpoint.path, body⟩).response.status := by
  by_cases read : ∃ v, Reads body v
  · obtain ⟨v, reads⟩ := read
    cases judged : Request.ofValue v with
    | ok request =>
        have accepted : Submission.ofBody body = .accepted request := by
          rw [reads.ofBody, Submission.ofValue, judged]
        rw [status_of_accepted sound now h accepted]
        exact .accepted reads judged
    | error issues =>
        obtain ⟨response, refused, statuses⟩ := Submission.refused_of_rejected judged
        rw [respond_refused h (reads.ofBody.trans refused)]
        rcases statuses with ⟨status, shown⟩ | ⟨status, hidden⟩
        · exact status ▸ .rejected reads judged shown
        · exact status ▸ .failed reads judged hidden
  · rw [not_exists] at read
    by_cases givenUp : GivenUp body
    · obtain ⟨response, refused, status⟩ := Submission.refused_of_givenUp givenUp
      rw [respond_refused h refused, status]
      exact .givenUp givenUp
    · obtain ⟨response, refused, status⟩ := Submission.refused_of_unread read givenUp
      rw [respond_refused h refused, status]
      exact .unread read givenUp

end Http

namespace App

open Http (canSend visible)
open Http.Submission (Reads GivenUp)

/-- The status of a call for a script or a file says what became of its body, whatever happened
before: 200 if it was accepted, 400 if it was given up on. It is 500 exactly if some issue would
show what cannot be sent, and so never for a body that could itself be sent back. -/
theorem status_of_submission {size : Int} {s : Session.State} (reached : Reachable size s)
    (now body : String) {endpoint : Http.Endpoint} (h : endpoint ∈ [.script, .download]) :
    let status := (Http.respond .scripts now s.cache ⟨"POST", endpoint.path, body⟩).response.status
    status ∈ [200, 400, 422, 500] ∧
    (status = 200 ↔ ∃ v request, Reads body v ∧ Request.ofValue v = .ok request) ∧
    (status = 400 ↔ GivenUp body) ∧
    (status = 500 ↔ ∃ v, Reads body v ∧
      ∃ i ∈ Request.issues v, canSend (visible i.input) = false) ∧
    ∀ v, Reads body v → canSend v = true → status ≠ 500 := by
  intro status
  have verdict : Http.Verdict body status := Http.verdict reached.sound now body h
  refine ⟨verdict.mem, verdict.ok_iff, verdict.givenUp_iff, verdict.failed_iff, ?_⟩
  intro v reads whole failed
  obtain ⟨w, other, i, member, hidden⟩ := verdict.failed_iff.mp failed
  rw [other.unique reads] at member
  have shown := Http.canSend_visible _ (Request.canSend_of_mem_issues member whole)
  exact absurd shown (Bool.eq_false_iff.mp hidden)

/-- A list that is submitted for a file, after an earlier call. -/
theorem status_of_submitted_list :
    let s := { fresh 1 with
      cache := (Http.respond .scripts "" (fresh 1).cache ⟨"GET", "/api/ping", ""⟩).cache }
    let body := "[0, null]"
    Reachable 1 s ∧ Reads body (.list [.int 0, .null]) ∧
      canSend (.list [.int 0, .null]) = true ∧
      (Http.respond .scripts "" s.cache
        ⟨"POST", Http.Endpoint.download.path, body⟩).response.status ≠ 500 := by
  intro s body
  have reached : Reachable 1 s := .call .fresh "" ⟨"GET", "/api/ping", ""⟩
  have reads : Reads body (.list [.int 0, .null]) :=
    ⟨by decide, Text.points body, by decide +kernel, by decide +kernel⟩
  obtain ⟨_, _, _, _, sendable⟩ :=
    @status_of_submission 1 s reached "" body .download (by decide)
  exact ⟨reached, reads, rfl, sendable _ reads rfl⟩

/-- A number that is read as an infinite one is rejected, but no answer can show it: the server
fails on both calls. -/
theorem infinite_number_fails :
    let body := "\x7b\"bias\":1e400\x7d"
    let v : Value := .object [("bias", .float (.infinite false))]
    Reachable 256 (fresh 256) ∧ Reads body v ∧
      Request.issues v = [⟨["bias"], .tooLarge (.float 10.0), .float (.infinite false)⟩] ∧
      ∀ endpoint ∈ [Http.Endpoint.script, .download],
        (Http.respond .scripts "" (fresh 256).cache ⟨"POST", endpoint.path, body⟩).response =
          .serverError := by
  intro body v
  have reads : Reads body v :=
    ⟨by decide, Text.points body, by decide +kernel, by decide +kernel⟩
  have refused : Http.Submission.ofBody body = .refused .serverError := by
    rw [reads.ofBody]
    rfl
  refine ⟨.fresh, reads, rfl, ?_⟩
  intro endpoint h
  rw [Http.respond_refused h refused]

end App
end IndicatorDesigner
