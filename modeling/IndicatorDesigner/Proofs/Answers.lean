import IndicatorDesigner.Http.Service
import IndicatorDesigner.Preview.Session
import IndicatorDesigner.Proofs.Acceptance
import IndicatorDesigner.Proofs.Transparency

/-!
Answers that do not depend on the cache they are given from. As long as a cache keeps only scripts
of settings in range, every request and every message is answered alike, and settings in range get
their own script.
-/
namespace IndicatorDesigner

namespace Config.InRange

variable {a b c : Config}

/-- What stands in the key of settings in range is a whole number or a finite one. -/
theorem value_cases (h : c.InRange) {v : Value} (hv : v ∈ c.key.values) :
    (∃ n : Int, v = .int n) ∨ ∃ x : Binary64, v = .float x ∧ x.isFinite = true := by
  obtain ⟨n, lookback, _⟩ := h.lookback
  obtain ⟨buy, buyThreshold, buyRange⟩ := h.buyThreshold
  obtain ⟨sell, sellThreshold, sellRange⟩ := h.sellThreshold
  obtain ⟨x, bias, biasRange⟩ := h.bias
  simp only [Key.values, key, PerFeature.toList, List.mem_append, List.mem_cons, List.mem_map,
    List.not_mem_nil, or_false] at hv
  rcases hv with ((rfl | rfl | rfl) | ⟨f, _, rfl⟩) | rfl
  · exact .inl ⟨n, lookback⟩
  · exact .inr ⟨buy, buyThreshold, buyRange.1⟩
  · exact .inr ⟨sell, sellThreshold, sellRange.1⟩
  · obtain ⟨w, weight, weightRange⟩ := h.weights f
    exact .inr ⟨w, weight, weightRange.1⟩
  · exact .inr ⟨x, bias, biasRange.1⟩

theorem hashable (h : c.InRange) : c.key.Hashable := by
  intro v hv
  obtain ⟨n, rfl⟩ | ⟨x, rfl, _⟩ := h.value_cases hv
  · exact ⟨_, rfl⟩
  · exact ⟨_, rfl⟩

theorem nanFree (h : c.InRange) : c.key.NanFree := by
  intro v hv
  obtain ⟨n, rfl⟩ | ⟨x, rfl, finite⟩ := h.value_cases hv
  · exact nofun
  · rintro ⟨⟩
    cases finite

/-- Periods of settings in range are whole numbers, so equal ones are written the same. -/
theorem lookback_eq (ha : a.InRange) (hb : b.InRange) (h : (a.key == b.key) = true) :
    a.lookback = b.lookback := by
  obtain ⟨m, hm, _⟩ := ha.lookback
  obtain ⟨n, hn, _⟩ := hb.lookback
  exact lookback_eq_of_int hm hn h

end Config.InRange

/-- A cache that keeps only scripts of settings in range. -/
abbrev Cache.Sound (c : Cache) : Prop := c.Kept Config.InRange

/-- Settings in range get their own script. -/
theorem Cache.Sound.getOrGenerate {c : Cache} (hc : c.Sound) {config : Config} (h : config.InRange)
    {script : String} (hg : Script.generate config = .ok script) :
    ∃ after, after.Sound ∧ Cache.getOrGenerate .scripts c config = .ok (script, after) := by
  have period : ∀ earlier : Config, earlier.InRange → (earlier.key == config.key) = true →
      Script.plainText earlier.lookback = Script.plainText config.lookback :=
    fun earlier he same => congrArg Script.plainText (he.lookback_eq h same)
  have given := hc.getOrGenerate_eq h.hashable period
  rw [Cache.scripts_eq_ok_iff.mpr hg] at given
  cases hr : Cache.getOrGenerate .scripts c config with
  | error fault => rw [hr] at given; cases given
  | ok result =>
      obtain ⟨found, after⟩ := result
      rw [hr] at given
      obtain rfl := Except.ok.inj given
      exact ⟨after, Cache.Kept.getOrGenerate hc h hr, rfl⟩

/-- The payload of settings and their script. -/
def Payload.of (config : Config) (script : String) : Payload :=
  ⟨script, config, Script.lineCount script⟩

theorem Payload.make_eq {c : Cache} (hc : c.Sound) {config : Config} (h : config.InRange)
    {script : String} (hg : Script.generate config = .ok script) :
    ∃ after, after.Sound ∧ Payload.make .scripts c config = .ok (.of config script, after) := by
  obtain ⟨after, sound, given⟩ := hc.getOrGenerate h hg
  exact ⟨after, sound, by rw [Payload.make, given]; rfl⟩

theorem canSend_switches (p : PerFeature Bool) :
    Http.canSend (Config.mapValue (p.map .bool)) = true := by
  simp [Config.mapValue, PerFeature.entries, PerFeature.get_map, Feature.all, Http.canSend,
    Http.canSendEntries, Chars.isText]

theorem canSend_weights {config : Config} (h : config.InRange) :
    Http.canSend (Config.mapValue config.weights) = true := by
  have finite (f : Feature) : Http.canSend (config.weights.get f) = true := by
    obtain ⟨x, weight, hx⟩ := h.weights f
    rw [weight]
    exact hx.1
  simp [Config.mapValue, PerFeature.entries, Feature.all, Http.canSend, Http.canSendEntries,
    Chars.isText, finite]

/-- The payload of settings in range can be sent. -/
theorem Payload.canSend_of {config : Config} (h : config.InRange) (script : String) :
    Http.canSend (Payload.of config script).toValue = true := by
  obtain ⟨n, lookback, _⟩ := h.lookback
  obtain ⟨buy, buyThreshold, hbuy, _⟩ := h.buyThreshold
  obtain ⟨sell, sellThreshold, hsell, _⟩ := h.sellThreshold
  obtain ⟨x, bias, hx, _⟩ := h.bias
  simp [Payload.toValue, Payload.of, Config.toValue, Http.canSend, Http.canSendEntries,
    Chars.isText, lookback, buyThreshold, hbuy, sellThreshold, hsell, bias, hx, canSend_weights h,
    canSend_switches]

/-- Something that is answered alike from all sound caches and keeps them sound. -/
def Settled {α : Type} (answer : Cache → α × Cache) : Prop :=
  ∃ a, ∀ c : Cache, c.Sound → ∃ after : Cache, after.Sound ∧ answer c = (a, after)

theorem settled_const {α : Type} (a : α) : Settled fun c => (a, c) :=
  ⟨a, fun c hc => ⟨c, hc, rfl⟩⟩

theorem Settled.map {α β : Type} {answer : Cache → α × Cache} (h : Settled answer) (f : α → β) :
    Settled fun c => (f (answer c).1, (answer c).2) := by
  obtain ⟨a, ha⟩ := h
  refine ⟨f a, ?_⟩
  intro c hc
  obtain ⟨after, sound, given⟩ := ha c hc
  exact ⟨after, sound, by simp only [given]⟩

namespace Http

/-- The answer that holds the payload of settings in range. -/
def scriptResponse (config : Config) (script : String) : Response :=
  ⟨200, some "application/json", none, Json.write (Payload.of config script).toValue⟩

/-- The answer that holds a script as a file. -/
def fileResponse (script : String) : Response :=
  ⟨200, some "text/plain; charset=utf-8",
    some "attachment; filename=\"agentic_ml_signal_suite.pine\"", script⟩

variable {c : Cache} {request : Request} {script : String}

theorem answerScript_eq (hc : c.Sound) (h : request.toConfig.InRange)
    (hg : Script.generate request.toConfig = .ok script) : ∃ after : Cache, after.Sound ∧
      answerScript .scripts c request = ⟨scriptResponse request.toConfig script,
        [(Payload.of request.toConfig script).entry], after⟩ := by
  obtain ⟨after, sound, made⟩ := Payload.make_eq hc h hg
  refine ⟨after, sound, ?_⟩
  simp only [answerScript, made, Response.json, Payload.canSend_of h script, if_true,
    scriptResponse]

theorem answerDownload_eq (hc : c.Sound) (h : request.toConfig.InRange)
    (hg : Script.generate request.toConfig = .ok script) : ∃ after : Cache, after.Sound ∧
      answerDownload .scripts c request = ⟨fileResponse script, [], after⟩ := by
  obtain ⟨after, sound, given⟩ := hc.getOrGenerate h hg
  refine ⟨after, sound, ?_⟩
  rw [answerDownload, given]
  rfl

theorem inRange_of_ofBody {body : String} (h : Submission.ofBody body = .accepted request) :
    request.toConfig.InRange := by
  have value : ∃ v, Submission.ofValue v = .accepted request := by
    unfold Submission.ofBody Submission.unreadable at h
    split at h
    · cases h
    · split at h
      · cases h
      · split at h
        · exact ⟨_, h⟩
        · cases h
        · cases h
  obtain ⟨v, h⟩ := value
  rw [Submission.ofValue] at h
  cases hv : Request.ofValue v with
  | error issues => rw [hv] at h; cases h
  | ok accepted =>
      rw [hv] at h
      cases h
      exact Request.inRange hv

/-- What a client and the log see of a result, and the cache behind it. -/
def Result.shown (r : Result) : (Response × List Log.Entry) × Cache :=
  ((r.response, r.entries), r.cache)

/-- A call for the counts of the cache, the only one whose answer depends on earlier ones. -/
def Call.AsksForStats (call : Call) : Prop :=
  Endpoint.ofPath? call.path = some .cacheStats ∧ call.method = "GET"

theorem settled_result (response : Response) (entries : List Log.Entry) :
    Settled fun c => (Result.mk response entries c).shown :=
  settled_const (response, entries)

theorem settled_answerScript (h : request.toConfig.InRange) :
    Settled fun c => (answerScript .scripts c request).shown := by
  obtain ⟨script, hg, _⟩ := Script.generate_inRange h
  refine ⟨(scriptResponse request.toConfig script,
    [(Payload.of request.toConfig script).entry]), ?_⟩
  intro c hc
  obtain ⟨after, sound, given⟩ := answerScript_eq hc h hg
  exact ⟨after, sound, congrArg Result.shown given⟩

theorem settled_answerDownload (h : request.toConfig.InRange) :
    Settled fun c => (answerDownload .scripts c request).shown := by
  obtain ⟨script, hg, _⟩ := Script.generate_inRange h
  refine ⟨(fileResponse script, []), ?_⟩
  intro c hc
  obtain ⟨after, sound, given⟩ := answerDownload_eq hc h hg
  exact ⟨after, sound, congrArg Result.shown given⟩

theorem settled_answer (now body : String) {endpoint : Endpoint} (h : endpoint ≠ .cacheStats) :
    Settled fun c => (endpoint.answer .scripts now c body).shown := by
  cases endpoint with
  | cacheStats => exact absurd rfl h
  | script =>
      cases hb : Submission.ofBody body with
      | refused response => simpa only [Endpoint.answer, hb] using settled_result response []
      | accepted request =>
          simpa only [Endpoint.answer, hb] using settled_answerScript (inRange_of_ofBody hb)
  | download =>
      cases hb : Submission.ofBody body with
      | refused response => simpa only [Endpoint.answer, hb] using settled_result response []
      | accepted request =>
          simpa only [Endpoint.answer, hb] using settled_answerDownload (inRange_of_ofBody hb)
  | _ =>
      simp only [Endpoint.answer]
      exact settled_result _ _

/-- An answer stays alike when a HEAD call loses its body. -/
theorem settled_head {result : Cache → Result} (h : Settled fun c => (result c).shown)
    (method : String) :
    Settled fun c => (if method = "HEAD"
      then { result c with response := { (result c).response with body := "" } }
      else result c).shown := by
  by_cases head : method = "HEAD"
  · simp only [if_pos head]
    exact h.map fun shown => ({ shown.1 with body := "" }, shown.2)
  · simp only [if_neg head]
    exact h

/-- Every call but one for the counts of the cache is answered alike from all sound caches. -/
theorem settled_respond (now : String) {call : Call} (h : ¬call.AsksForStats) :
    Settled fun c => (respond .scripts now c call).shown := by
  unfold respond
  apply settled_head
  cases hp : Endpoint.ofPath? call.path with
  | none => exact settled_result _ _
  | some endpoint =>
      by_cases hm : endpoint.methods.contains call.method = true
      · simp only [hm, if_true]
        apply settled_answer now call.body
        rintro rfl
        exact h ⟨hp, by simpa [Endpoint.methods] using hm⟩
      · simp only [hm]
        exact settled_result _ _

end Http

namespace Message

variable {c : Cache} {config : Value}

theorem reply_of_accepted (hc : c.Sound) (id : Value) {request : Request} {script : String}
    (hr : Request.ofValue config = .ok request)
    (hg : Script.generate request.toConfig = .ok script) : ∃ after : Cache, after.Sound ∧
      (generate id config).reply .scripts c =
        .ok (.ready id (.of request.toConfig script), after) := by
  obtain ⟨after, sound, made⟩ := Payload.make_eq hc (Request.inRange hr) hg
  refine ⟨after, sound, ?_⟩
  simp only [reply, hr, made, bind, Except.bind]

theorem reply_of_rejected (c : Cache) (id : Value) {issues : List Issue}
    (hr : Request.ofValue config = .error issues) :
    (generate id config).reply .scripts c = .ok (.rejected id issues, c) := by
  simp only [reply, hr]

end Message

namespace Session

variable {c : Cache} {v id config : Value} {request : Request} {script : String}

/-- What a client and the log see of a decision, and the cache behind it. -/
def Decision.shown (d : Decision) : (Move × List Log.Entry) × Cache :=
  ((d.move, d.entries), d.cache)

theorem settled_decision (move : Move) (entries : List Log.Entry) :
    Settled fun c => (Decision.mk move entries c).shown :=
  settled_const (move, entries)

/-- The reply that holds the payload of settings. -/
def scriptReply (id : Value) (config : Config) (script : String) : String :=
  Json.write (Reply.ready id (.of config script)).toValue

theorem ne_ping_of_read {text : String} (read : Json.read text = .ok v) : text ≠ "ping" := by
  rintro rfl
  have unread : (Json.read "ping").isOk = false := by decide
  rw [read] at unread
  cases unread

theorem answer_eq (hc : c.Sound) (hm : Message.ofValue v = .generate id config)
    (hr : Request.ofValue config = .ok request)
    (hg : Script.generate request.toConfig = .ok script) : ∃ after : Cache, after.Sound ∧
      answer .scripts c v = ⟨.send (scriptReply id request.toConfig script) .reply,
        [(Payload.of request.toConfig script).entry], after⟩ := by
  obtain ⟨after, sound, replied⟩ := Message.reply_of_accepted hc id hr hg
  refine ⟨after, sound, ?_⟩
  simp only [answer, hm, replied]
  rfl

theorem settled_answer (v : Value) : Settled fun c => (answer .scripts c v).shown := by
  cases hm : Message.ofValue v with
  | defaults id =>
      simp only [answer, hm, Message.reply]
      exact settled_decision _ _
  | unknown id kind =>
      simp only [answer, hm, Message.reply]
      exact settled_decision _ _
  | generate id config =>
      cases hr : Request.ofValue config with
      | error issues =>
          simp only [answer, hm, Message.reply_of_rejected _ id hr]
          exact settled_decision _ _
      | ok request =>
          obtain ⟨script, hg, _⟩ := Script.generate_inRange (Request.inRange hr)
          refine ⟨(.send (scriptReply id request.toConfig script) .reply,
            [(Payload.of request.toConfig script).entry]), ?_⟩
          intro c hc
          obtain ⟨after, sound, given⟩ := answer_eq hc hm hr hg
          exact ⟨after, sound, congrArg Decision.shown given⟩

/-- Every event of a session is answered alike from all sound caches. -/
theorem settled_respond (event : Event) : Settled fun c => (respond .scripts c event).shown := by
  cases event with
  | text message =>
      by_cases ping : message = "ping"
      · simp only [respond, answerText, if_pos ping]
        exact settled_decision _ _
      · simp only [respond, answerText, if_neg ping]
        cases Json.read message with
        | ok v => exact settled_answer v
        | error fault => cases fault <;> exact settled_decision _ _
  | silence => exact settled_decision _ _
  | failure message => exact settled_decision _ _
  | disconnect => exact settled_decision _ _

/-- No event of a session brings a script into the cache that is not one of settings in range. -/
theorem sound_respond {c : Cache} (sound : c.Sound) (event : Event) :
    (respond .scripts c event).cache.Sound := by
  obtain ⟨_, given⟩ := settled_respond event
  obtain ⟨after, kept, shown⟩ := given c sound
  obtain ⟨_, rfl⟩ := Prod.mk.inj shown
  exact kept

end Session
end IndicatorDesigner
