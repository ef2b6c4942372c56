import IndicatorDesigner.Proofs.FieldByField
import IndicatorDesigner.Proofs.OpenSessions

/-!
Which messages get a script. What counts as false is taken for settings that are left out, so
besides null and the empty object six values that are no object get the script of the defaults.
Whatever else is not accepted gets its issues, and leaves the cache as it is.
-/
namespace IndicatorDesigner

/-- The values that count as false, though they are neither null nor an object. -/
def Message.emptyValues : List Value :=
  [.bool false, .int 0, .float (.zero false), .float (.zero true), .text "", .list []]

theorem Scalar.truthy_eq_false_iff (s : Scalar) : s.truthy = false ↔
    s = .null ∨ Value.scalar s ∈ Message.emptyValues := by
  cases s with
  | null => simp [truthy]
  | bool b => cases b <;> simp [truthy, Message.emptyValues]
  | int n => simp [truthy, Message.emptyValues]
  | text s => cases s <;> simp [truthy, Message.emptyValues]
  | float x =>
      cases x with
      | nan => simp [truthy, Message.emptyValues, Binary64.zero]
      | infinite negative => simp [truthy, Message.emptyValues, Binary64.zero]
      | finite negative mantissa exponent canonical =>
          -- A mantissa of zero leaves only the least exponent.
          have least : mantissa = 0 → exponent = -1074 := by
            obtain ⟨_, _, _, full | least⟩ := canonical
            · omega
            · exact fun _ => least
          cases negative <;> simp [truthy, Message.emptyValues, Binary64.zero] <;> exact least

theorem Value.truthy_eq_false_iff (v : Value) : v.truthy = false ↔
    v = .null ∨ v = .object [] ∨ v ∈ Message.emptyValues := by
  cases v with
  | scalar s => simp [truthy, s.truthy_eq_false_iff]
  | list items => simp [truthy, Message.emptyValues]
  | object entries => simp [truthy, Message.emptyValues]

namespace Message

/-- The settings that a value stands for: itself, or none at all if it counts as false. -/
def settings (config : Value) : Value := if config.truthy then config else .object []

theorem ofEntries_generate {entries : List (Chars × Value)}
    (asks : Value.find? "type" entries = some (.text "generate")) :
    ofEntries entries = .generate ((Value.find? "id" entries).getD .null)
      (settings ((Value.find? "config" entries).getD .null)) := by
  simp only [ofEntries, asks, Option.getD_some, settings]

theorem accepted_settings_iff (config : Value) :
    (∃ request, Request.ofValue (settings config) = .ok request) ↔
      config = .null ∨ (∃ request, Request.ofValue config = .ok request) ∨
        config ∈ emptyValues := by
  have none : ∃ request, Request.ofValue (.object []) = .ok request := ⟨_, rfl⟩
  have counts := config.truthy_eq_false_iff
  cases given : config.truthy with
  | false =>
      rw [settings, given]
      refine iff_of_true none ?_
      rcases counts.mp given with null | rfl | empty
      · exact .inl null
      · exact .inr (.inl none)
      · exact .inr (.inr empty)
  | true =>
      rw [settings, given, if_pos rfl]
      refine ⟨fun accepted => .inr (.inl accepted), ?_⟩
      rintro (null | accepted | empty)
      · rw [counts.mpr (.inl null)] at given
        cases given
      · exact accepted
      · rw [counts.mpr (.inr (.inr empty))] at given
        cases given

/-- From a sound cache, accepted settings get a script, and rejected ones get their issues. -/
theorem reply_to_settings {c : Cache} (sound : c.Sound) (id config : Value) :
    ∃ reply after, (generate id config).reply .scripts c = .ok (reply, after) ∧
      ((∃ payload, reply = .ready id payload) ↔
        ∃ request, Request.ofValue config = .ok request) ∧
      ((¬∃ payload, reply = .ready id payload) →
        after = c ∧ ∃ issues, issues ≠ [] ∧ reply = .rejected id issues) := by
  cases judged : Request.ofValue config with
  | ok request =>
      obtain ⟨script, generated, _⟩ := Script.generate_inRange (Request.inRange judged)
      obtain ⟨after, _, replied⟩ := reply_of_accepted sound id judged generated
      refine ⟨_, after, replied, iff_of_true ⟨_, rfl⟩ ⟨request, rfl⟩, ?_⟩
      intro unready
      exact absurd ⟨_, rfl⟩ unready
  | error issues =>
      have some : issues ≠ [] := by
        rintro rfl
        exact Request.ofValue_ne_nil config judged
      refine ⟨_, c, reply_of_rejected c id judged, ?_, fun _ => ⟨rfl, issues, some, rfl⟩⟩
      constructor
      · rintro ⟨payload, ready⟩
        cases ready
      · rintro ⟨request, accepted⟩
        cases accepted

end Message

namespace App

/-- In every state that a service gets into, a message for a script gets one exactly if its settings
are left out, null, accepted, or an empty value that is no object. Otherwise it gets at least one
issue, and the cache stays as it is. -/
theorem reply_to_generate {size : Int} {s : Session.State} (reached : Reachable size s)
    {entries : List (Chars × Value)}
    (asks : Value.find? "type" entries = some (.text "generate")) :
    let id := (Value.find? "id" entries).getD .null
    ∃ reply after, (Message.ofEntries entries).reply .scripts s.cache = .ok (reply, after) ∧
      ((∃ payload, reply = .ready id payload) ↔
        ∀ config, Value.find? "config" entries = some config → config = .null ∨
          (∃ request, Request.ofValue config = .ok request) ∨ config ∈ Message.emptyValues) ∧
      ((¬∃ payload, reply = .ready id payload) →
        after = s.cache ∧ ∃ issues, issues ≠ [] ∧ reply = .rejected id issues) := by
  intro id
  rw [Message.ofEntries_generate asks]
  obtain ⟨reply, after, replied, ready, unready⟩ :=
    Message.reply_to_settings reached.sound id
      (Message.settings ((Value.find? "config" entries).getD .null))
  refine ⟨reply, after, replied, ready.trans ?_, unready⟩
  rw [Message.accepted_settings_iff]
  cases Value.find? "config" entries <;> simp

theorem reply_to_wrong_settings :
    let s := (Session.start "a" (fresh 0)).2
    let entries : List (Chars × Value) := [("id", .list []), ("type", .text "generate"),
      ("config", .object [("bias", .float .nan)])]
    Reachable 0 s ∧ Value.find? "type" entries = some (.text "generate") ∧
      ∃ issues, issues ≠ [] ∧ (Message.ofEntries entries).reply .scripts s.cache =
        .ok (.rejected (.list []) issues, s.cache) := by
  intro s entries
  have reached : Reachable 0 s := .connect .fresh "a"
  obtain ⟨reply, after, replied, ready, unready⟩ := @reply_to_generate 0 s reached entries rfl
  have rejected : ¬∃ payload, reply = .ready (.list []) payload := by
    intro isReady
    rcases ready.mp isReady _ rfl with null | ⟨request, accepted⟩ | empty
    · cases null
    · cases accepted
    · simp [Message.emptyValues] at empty
  obtain ⟨rfl, issues, some, rfl⟩ := unready rejected
  exact ⟨reached, rfl, issues, some, replied⟩

/-- An empty list for settings gets the script of the defaults, while as the body of a call it is
rejected. -/
theorem empty_list_gets_script :
    let entries : List (Chars × Value) := [("type", .text "generate"), ("id", .int 1),
      ("config", .list [])]
    Reachable 256 (fresh 256) ∧ Value.find? "config" entries = some (.list []) ∧
      (∀ request, Request.ofValue (.list []) ≠ .ok request) ∧
      (∃ payload after, (Message.ofEntries entries).reply .scripts (fresh 256).cache =
        .ok (.ready (.int 1) payload, after)) ∧
      (Http.respond .scripts "" (fresh 256).cache
        ⟨"POST", Http.Endpoint.script.path, "[]"⟩).response.status = 422 := by
  intro entries
  obtain ⟨reply, after, replied, ready, _⟩ :=
    Message.reply_to_settings (sound_fresh 256) (.int 1) (.object [])
  obtain ⟨payload, rfl⟩ := ready.mpr ⟨_, rfl⟩
  refine ⟨.fresh, rfl, ?_, ⟨payload, after, replied⟩, by decide +kernel⟩
  intro request accepted
  cases accepted

end App
end IndicatorDesigner
