import IndicatorDesigner.Http.Response
import IndicatorDesigner.Proofs.Entries
import IndicatorDesigner.Proofs.Outcome
import IndicatorDesigner.Request.Basic
import Mathlib.Data.List.Forall2

/-!
The issues of a submitted object in the two forms in which they are reported: as errors of a message
and as details of an answer over HTTP. Both name the same rule at the same place. Details also show
what was submitted, so they can be sent exactly if what they show can.
-/
namespace IndicatorDesigner

namespace Http

theorem canSendItems_iff {items : List Value} :
    canSendItems items = true ↔ ∀ v ∈ items, canSend v = true := by
  induction items with
  | nil => simp [canSendItems]
  | cons v rest ih => simp [canSendItems, ih]

theorem canSendEntries_iff {entries : List (Chars × Value)} : canSendEntries entries = true ↔
    ∀ entry ∈ entries, entry.1.isText = true ∧ canSend entry.2 = true := by
  induction entries with
  | nil => simp [canSendEntries]
  | cons entry rest ih => simp [canSendEntries, ih, and_assoc]

theorem canSend_entry {key : String} {v : Value} (h : canSend v = true) :
    canSend (.object [(.text key, v)]) = true := by
  apply canSendEntries_iff.mpr
  intro entry member
  obtain rfl := List.mem_singleton.mp member
  exact ⟨rfl, h⟩

mutual

/-- What can be sent can be sent without its internal entries. -/
theorem canSend_visible (v : Value) (h : canSend v = true) : canSend (visible v) = true := by
  cases v with
  | scalar s => exact h
  | list items => exact canSend_visibleItems items h
  | object entries => exact canSend_visibleEntries entries h

theorem canSend_visibleItems (items : List Value) (h : canSendItems items = true) :
    canSendItems (visibleItems items) = true := by
  cases items with
  | nil => rfl
  | cons v rest =>
      rw [canSendItems, Bool.and_eq_true] at h
      rw [visibleItems, canSendItems, canSend_visible v h.1, canSend_visibleItems rest h.2]
      rfl

theorem canSend_visibleEntries (entries : List (Chars × Value))
    (h : canSendEntries entries = true) : canSendEntries (visibleEntries entries) = true := by
  cases entries with
  | nil => rfl
  | cons entry rest =>
      obtain ⟨key, v⟩ := entry
      rw [canSendEntries, Bool.and_eq_true, Bool.and_eq_true] at h
      have kept := canSend_visibleEntries rest h.2
      rw [visibleEntries]
      split
      · exact kept
      · rw [canSendEntries, h.1.1, canSend_visible v h.1.2, kept]
        rfl

end

end Http

/-- A cause that a part of an object can have. What it is about can be sent. -/
def Issue.Cause.OfPart (cause : Issue.Cause) : Prop :=
  cause ≠ .objectExpected ∧ cause.context?.all Http.canSend = true

instance (cause : Issue.Cause) : Decidable cause.OfPart := inferInstanceAs (Decidable (_ ∧ _))

theorem Issue.Cause.OfPart.of_error {α : Type} {c cause : Issue.Cause}
    (h : (.error c : Except Issue.Cause α) = .error cause) (hc : c.OfPart) : cause.OfPart :=
  Except.error.inj h ▸ hc

/-- An issue of a part of a value, which can be sent if the whole can. -/
structure Issue.Within (i : Issue) (v : Value) : Prop where
  cause : i.cause.OfPart
  input : Http.canSend v = true → Http.canSend i.input = true

namespace Coercion

open Issue (Cause)

/-- Every error of a rule for a part of an object is a cause that a part can have. -/
def RuleOfPart {α : Type} (rule : Value → Except Cause α) : Prop :=
  ∀ v cause, rule v = .error cause → cause.OfPart

theorem ofPart_intOfFloat {x : Binary64} {cause : Cause} (h : intOfFloat x = .error cause) :
    cause.OfPart := by
  unfold intOfFloat at h
  split at h
  · exact .of_error h (by decide)
  · split at h
    · exact .of_error h (by decide)
    · split at h
      · cases h
      · exact .of_error h (by decide)

theorem ofPart_intOfText {s : String} {cause : Cause} (h : intOfText s = .error cause) :
    cause.OfPart := by
  unfold intOfText at h
  split at h
  · cases h
  · exact .of_error h (by decide)
  · split at h
    · cases h
    · exact .of_error h (by decide)

theorem ruleOfPart_int : RuleOfPart int := by
  intro v cause h
  unfold int at h
  split at h
  · cases h
  · cases h
  · exact ofPart_intOfFloat h
  · exact ofPart_intOfText h
  · exact .of_error h (by decide)
  · exact .of_error h (by decide)

theorem ofPart_floatOfInt {n : Int} {cause : Cause} (h : floatOfInt n = .error cause) :
    cause.OfPart := by
  unfold floatOfInt at h
  split at h
  · cases h
  · exact .of_error h (by decide)

theorem ruleOfPart_float : RuleOfPart float := by
  intro v cause h
  unfold float at h
  split at h
  · cases h
  · exact ofPart_floatOfInt h
  · exact ofPart_floatOfInt h
  · unfold floatOfText at h
    split at h
    · cases h
    · cases h
    · exact .of_error h (by decide)
  · exact .of_error h (by decide)
  · exact .of_error h (by decide)

theorem ofPart_switchOfInt {n : Int} {cause : Cause} (h : switchOfInt n = .error cause) :
    cause.OfPart := by
  unfold switchOfInt at h
  split at h
  · cases h
  · split at h
    · cases h
    · split at h
      · exact .of_error h (by decide)
      · exact .of_error h (by decide)

theorem ruleOfPart_switch : RuleOfPart switch := by
  intro v cause h
  unfold switch at h
  split at h
  · cases h
  · exact ofPart_switchOfInt h
  · split at h
    · exact ofPart_switchOfInt h
    · exact .of_error h (by decide)
  · simp only [switchOfText] at h
    split at h
    · cases h
    · split at h
      · cases h
      · exact .of_error h (by decide)
  · exact .of_error h (by decide)
  · exact .of_error h (by decide)

theorem ruleOfPart_choice {α : Type} (find? : String → Option α) (options : List String) :
    RuleOfPart (choice find? options) := by
  have listed : (Cause.notAnOption options).OfPart := ⟨nofun, rfl⟩
  intro v cause h
  unfold choice at h
  split at h
  · split at h
    · cases h
    · exact .of_error h listed
  · exact .of_error h (by decide)
  · exact .of_error h listed

theorem ofPart_tooLarge {bound : Scalar} (h : Http.canSend (.scalar bound) = true) :
    (Cause.tooLarge bound).OfPart :=
  ⟨nofun, Http.canSend_entry h⟩

theorem ofPart_tooSmall {bound : Scalar} (h : Http.canSend (.scalar bound) = true) :
    (Cause.tooSmall bound).OfPart :=
  ⟨nofun, Http.canSend_entry h⟩

theorem ruleOfPart_boundedInt (b : Bounds Int) : RuleOfPart (boundedInt b) := by
  intro v cause h
  rcases error_of_bind h with unread | ⟨n, _, h⟩
  · exact ruleOfPart_int v cause unread
  · split at h
    · exact .of_error h (ofPart_tooLarge rfl)
    · split at h
      · exact .of_error h (ofPart_tooSmall rfl)
      · cases h

theorem ruleOfPart_boundedFloat {b : Bounds Binary64} (hl : b.least.isFinite = true)
    (hg : b.greatest.isFinite = true) : RuleOfPart (boundedFloat b) := by
  intro v cause h
  rcases error_of_bind h with unread | ⟨x, _, h⟩
  · exact ruleOfPart_float v cause unread
  · split at h
    · exact .of_error h (ofPart_tooLarge hg)
    · split at h
      · exact .of_error h (ofPart_tooSmall hl)
      · cases h

end Coercion

namespace Request

open Coercion (RuleOfPart)

variable {α : Type} {entries : List (Chars × Value)} {rule : Value → Except Issue.Cause α}

theorem canSend_of_find? {key : Chars} {v : Value} (h : Value.find? key entries = some v)
    (whole : Http.canSend (.object entries) = true) : Http.canSend v = true :=
  (Http.canSendEntries_iff.mp whole (key, v) (Value.mem_of_find? h)).2

/-- An issue of one judged value shows that value. -/
theorem judged_ofPart {path : List String} {v : Value} (rules : RuleOfPart rule) :
    ∀ i ∈ issuesOf ((rule v).mapError fun cause => [⟨path, cause, v⟩]),
      i.cause.OfPart ∧ i.input = v := by
  intro i member
  cases judged : rule v with
  | ok a =>
      rw [judged] at member
      cases member
  | error cause =>
      rw [judged] at member
      obtain rfl := List.mem_singleton.mp member
      exact ⟨rules v cause judged, rfl⟩

theorem field_within {name : String} {standard : α} (rules : RuleOfPart rule) :
    ∀ i ∈ issuesOf (field entries name rule standard), i.Within (.object entries) := by
  intro i member
  unfold field at member
  split at member
  · cases member
  · rename_i v found
    obtain ⟨cause, input⟩ := judged_ofPart rules i member
    exact ⟨cause, input ▸ canSend_of_find? found⟩

theorem mapEntries_within {name : String} (rules : RuleOfPart rule) :
    ∀ i ∈ issuesOf (mapEntries name rule entries), i.Within (.object entries) := by
  induction entries with
  | nil => exact fun _ member => absurd member List.not_mem_nil
  | cons entry rest ih =>
      obtain ⟨key, v⟩ := entry
      intro i member
      have parts : i ∈ issuesOf (featureKey name key) ∨
          i ∈ issuesOf ((rule v).mapError fun cause => [⟨[name, key.shown], cause, v⟩]) ∨
          i ∈ issuesOf (mapEntries name rule rest) := by
        unfold mapEntries at member
        split at member
        · cases member
        · rwa [issuesOf, List.mem_append, List.mem_append, or_assoc] at member
      have first (whole : Http.canSend (.object ((key, v) :: rest)) = true) :
          key.isText = true ∧ Http.canSend v = true :=
        Http.canSendEntries_iff.mp whole (key, v) List.mem_cons_self
      rcases parts with ofKey | ofValue | later
      · obtain ⟨cause, input⟩ := judged_ofPart (Coercion.ruleOfPart_choice _ _) i ofKey
        refine ⟨cause, ?_⟩
        intro whole
        rw [input]
        exact (first whole).1
      · obtain ⟨cause, input⟩ := judged_ofPart rules i ofValue
        refine ⟨cause, ?_⟩
        intro whole
        rw [input]
        exact (first whole).2
      · obtain ⟨cause, input⟩ := ih i later
        refine ⟨cause, ?_⟩
        intro whole
        apply input
        apply Http.canSendEntries_iff.mpr
        intro entry member
        exact Http.canSendEntries_iff.mp whole entry (List.mem_cons_of_mem _ member)

theorem featureMap_within {name : String} (rules : RuleOfPart rule) :
    ∀ i ∈ issuesOf (featureMap entries name rule), i.Within (.object entries) := by
  intro i member
  unfold featureMap at member
  split at member
  · cases member
  · rename_i items found
    obtain ⟨cause, input⟩ := mapEntries_within rules i member
    refine ⟨cause, ?_⟩
    intro whole
    exact input (canSend_of_find? found whole)
  · rename_i v _ found
    obtain rfl := List.mem_singleton.mp member
    exact ⟨⟨nofun, rfl⟩, canSend_of_find? found⟩

theorem weightsOf_within :
    ∀ i ∈ issuesOf (weightsOf entries), i.Within (.object entries) := by
  intro i member
  cases read : featureMap entries "weights" Coercion.float with
  | error issues =>
      have unread : i ∈ issuesOf (featureMap entries "weights" Coercion.float) := by
        rw [read]
        rwa [weightsOf, read] at member
      exact featureMap_within Coercion.ruleOfPart_float i unread
  | ok weights =>
      rw [weightsOf, read] at member
      dsimp only [bind, Except.bind] at member
      split at member
      · cases member
      · obtain rfl := List.mem_singleton.mp member
        refine ⟨⟨nofun, rfl⟩, ?_⟩
        intro whole
        dsimp only
        cases found : Value.find? "weights" entries with
        | none => rfl
        | some v => exact canSend_of_find? found whole

theorem extraIssues_within : ∀ i ∈ extraIssues entries, i.Within (.object entries) := by
  intro i member
  obtain ⟨entry, extra, rfl⟩ := List.mem_map.mp member
  refine ⟨⟨nofun, rfl⟩, ?_⟩
  intro whole
  exact (Http.canSendEntries_iff.mp whole entry (List.mem_of_mem_filter extra)).2

/-- The issues of an object are issues of its parts. -/
theorem ofValue_within {issues : List Issue} (h : ofValue (.object entries) = .error issues) :
    ∀ i ∈ issues, i.Within (.object entries) := by
  rw [ofValue] at h
  split at h
  · rename_i key v broken
    intro i member
    rw [← Except.error.inj h] at member
    obtain rfl := List.mem_singleton.mp member
    refine ⟨⟨nofun, rfl⟩, ?_⟩
    intro whole
    exact (Http.canSendEntries_iff.mp whole _ (List.mem_of_find?_eq_some broken)).1
  · unfold ofEntries at h
    split at h
    · cases h
    · rw [← Except.error.inj h]
      intro i member
      simp only [allIssues, List.mem_append] at member
      rcases member with (((((((lookback | buy) | sell) | features) | weights) | bias) | model) |
        size) | extra
      · exact field_within (Coercion.ruleOfPart_boundedInt _) i lookback
      · exact field_within (Coercion.ruleOfPart_boundedFloat (by decide) (by decide)) i buy
      · exact field_within (Coercion.ruleOfPart_boundedFloat (by decide) (by decide)) i sell
      · exact featureMap_within Coercion.ruleOfPart_switch i features
      · exact weightsOf_within i weights
      · exact field_within (Coercion.ruleOfPart_boundedFloat (by decide) (by decide)) i bias
      · exact field_within (Coercion.ruleOfPart_choice _ _) i model
      · exact field_within (Coercion.ruleOfPart_choice _ _) i size
      · exact extraIssues_within i extra

/-- What an issue is about can be sent, and what it shows can if the submitted value can. -/
theorem canSend_of_ofValue {v : Value} {issues : List Issue} (h : ofValue v = .error issues) :
    ∀ i ∈ issues, i.cause.context?.all Http.canSend = true ∧
      (Http.canSend v = true → Http.canSend i.input = true) := by
  intro i member
  cases v with
  | object entries =>
      obtain ⟨cause, input⟩ := ofValue_within h i member
      exact ⟨cause.2, input⟩
  | _ =>
      rw [← Except.error.inj h] at member
      obtain rfl := List.mem_singleton.mp member
      exact ⟨rfl, id⟩

end Request

namespace Http

/-- An error of a message and a detail of an answer that report the same rule at the same place. -/
def Corresponds (error detail : Value) : Prop :=
  ∃ (path : List Value) (message name : String) (rest : List (Chars × Value)),
    error = .object [("loc", .list path), ("msg", .text message)] ∧
    detail = .object (("type", .text name) :: ("loc", .list (.text "body" :: path)) ::
      ("msg", .text message) :: rest)

/-- The details of issues, as they are sent. -/
def details (issues : List Issue) : List Value := visibleItems (issues.map issueValue)

theorem rejected_eq (issues : List Issue) : Response.rejected (issues.map issueValue) =
    Response.json 422 (.object [("detail", .list (details issues))]) := rfl

theorem issueValue_of_part {i : Issue} (h : i.cause ≠ .objectExpected) :
    issueValue i = detailValue i.cause.name (i.path.map .text) i.cause.message i.input
      i.cause.context? := by
  unfold issueValue
  split
  · rename_i whole
    exact absurd whole h
  · rfl

theorem visibleItems_text (path : List String) :
    visibleItems (path.map .text) = path.map .text := by
  induction path with
  | nil => rfl
  | cons part rest ih => rw [List.map_cons, visibleItems, ih, visible]

theorem visibleItems_eq_map (items : List Value) : visibleItems items = items.map visible := by
  induction items with
  | nil => rfl
  | cons v rest ih => rw [visibleItems, ih, List.map_cons]

theorem visibleEntries_cons {key : Chars} (h : isInternal key = false) (v : Value)
    (rest : List (Chars × Value)) :
    visibleEntries ((key, v) :: rest) = (key, visible v) :: visibleEntries rest := by
  rw [visibleEntries, h]
  rfl

/-- A detail as it is sent: of what it is about and of the submitted value, only what is visible. -/
theorem visible_detailValue (name message : String) (path : List String) (input : Value)
    (context : Option Value) :
    visible (detailValue name (path.map .text) message input context) =
      .object (("type", .text name) :: ("loc", .list (.text "body" :: path.map .text)) ::
        ("msg", .text message) :: ("input", visible input) ::
        visibleEntries (context.toList.map fun v => ("ctx", v))) := by
  have place : visible (.list (.text "body" :: path.map .text)) =
      .list (.text "body" :: path.map .text) := by
    rw [visible, visibleItems, visibleItems_text, visible]
  rw [detailValue, visible, visibleEntries_cons (by decide), visibleEntries_cons (by decide),
    visibleEntries_cons (by decide), visibleEntries_cons (by decide), place, visible, visible]

theorem corresponds_issue {i : Issue} (h : i.cause ≠ .objectExpected) :
    Corresponds i.toValue (visible (issueValue i)) := by
  rw [issueValue_of_part h, visible_detailValue]
  exact ⟨_, _, _, _, rfl, rfl⟩

/-- The errors and the details of a rejected object correspond one by one. -/
theorem corresponds_issues {entries : List (Chars × Value)} {issues : List Issue}
    (h : Request.ofValue (.object entries) = .error issues) :
    List.Forall₂ Corresponds (issues.map Issue.toValue) (details issues) := by
  rw [details, visibleItems_eq_map, List.map_map, List.forall₂_map_left_iff,
    List.forall₂_map_right_iff, List.forall₂_same]
  intro i member
  exact corresponds_issue (Request.ofValue_within h i member).cause.1

theorem canSend_path (path : List String) : canSendItems (path.map .text) = true := by
  apply canSendItems_iff.mpr
  simp [canSend, Chars.isText]

/-- A detail can be sent if what it shows of the submitted value can. -/
theorem canSend_detailValue (name message : String) (path : List String) (input : Value)
    {context : Option Value} (h : context.all canSend = true) :
    canSend (visible (detailValue name (path.map .text) message input context)) =
      canSend (visible input) := by
  have about : canSendEntries (visibleEntries (context.toList.map fun v => ("ctx", v))) = true := by
    apply canSend_visibleEntries
    cases context with
    | none => rfl
    | some v => exact canSend_entry h
  rw [visible_detailValue]
  simp [canSend, canSendEntries, canSendItems, Chars.isText, canSend_path, about]

theorem canSend_issue {i : Issue} (h : i.cause.context?.all canSend = true) :
    canSend (visible (issueValue i)) = canSend (visible i.input) := by
  by_cases whole : i.cause = .objectExpected
  · rw [issueValue, whole]
    exact canSend_detailValue _ _ [] i.input rfl
  · rw [issueValue_of_part whole]
    exact canSend_detailValue _ _ i.path i.input h

/-- Details can be sent exactly if all that they show of the submitted value can. -/
theorem canSend_details_iff {v : Value} {issues : List Issue}
    (h : Request.ofValue v = .error issues) :
    canSend (.object [("detail", .list (details issues))]) = true ↔
      ∀ i ∈ issues, canSend (visible i.input) = true := by
  have each : ∀ i ∈ issues, canSend (visible (issueValue i)) = canSend (visible i.input) :=
    fun i member => canSend_issue (Request.canSend_of_ofValue h i member).1
  simp only [canSend, canSendEntries, Chars.isText, Bool.true_and, Bool.and_true]
  rw [canSendItems_iff, details, visibleItems_eq_map, List.map_map, List.forall_mem_map]
  exact forall₂_congr fun i member => by rw [Function.comp_apply, each i member]

/-- What is wrong with a value that can be sent can be sent too. -/
theorem canSend_details {v : Value} {issues : List Issue} (h : Request.ofValue v = .error issues)
    (whole : canSend v = true) : canSend (.object [("detail", .list (details issues))]) = true := by
  apply (canSend_details_iff h).mpr
  intro i member
  exact canSend_visible _ ((Request.canSend_of_ofValue h i member).2 whole)

end Http
end IndicatorDesigner
