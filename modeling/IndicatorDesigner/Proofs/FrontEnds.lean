import IndicatorDesigner.CommandLine.Run
import IndicatorDesigner.Proofs.Agreement
import IndicatorDesigner.Proofs.FieldByField
import IndicatorDesigner.Proofs.Normalization

/-!
The command line against the service. Whatever options are read from a command line, they amount to
one object that a client could submit: it is refused for the same reasons as that object, or gives
the script that the service gives for it.
-/
namespace IndicatorDesigner

namespace Request

end Request

namespace CommandLine

section Mentions

variable {α : Type}

/-- What is said last of a feature. -/
def last? (pairs : List (Feature × α)) (f : Feature) : Option α :=
  (pairs.filter (·.1 = f)).getLast?.map (·.2)

/-- What is said last of each feature, in the order of first mention. -/
def lastMentions (pairs : List (Feature × α)) : List (Feature × α) :=
  (pairs.map (·.1)).eraseDups.filterMap fun f => (last? pairs f).map (f, ·)

theorem last?_concat (pairs : List (Feature × α)) (f g : Feature) (a : α) :
    last? (pairs ++ [(f, a)]) g = if g = f then some a else last? pairs g := by
  by_cases h : g = f
  · subst h
    simp [last?]
  · simp [last?, h, Ne.symm h]

theorem last?_isSome_iff (pairs : List (Feature × α)) (f : Feature) :
    (last? pairs f).isSome = true ↔ f ∈ pairs.map (·.1) := by
  simp [last?]

end Mentions

/-- Options as they are read from a command line on which none is left blank. -/
structure Given where
  lookback : Int
  buyThreshold : Binary64
  sellThreshold : Binary64
  bias : Binary64
  model : Model
  markerSize : MarkerSize
  enabled : List Feature
  disabled : List Feature
  weights : List (Feature × Binary64)
  output : Option String
  save : Bool
  copy : Bool

namespace Given

def arguments (g : Given) : Arguments :=
  { lookback := some g.lookback
    buyThreshold := some g.buyThreshold
    sellThreshold := some g.sellThreshold
    bias := some g.bias
    model := some g.model
    markerSize := some g.markerSize
    enabled := g.enabled.map some
    disabled := g.disabled.map some
    weights := g.weights.map some
    output := g.output
    save := g.save
    copy := g.copy }

/-- Each feature that is mentioned, with whether it is to be on. -/
def switches (g : Given) : List (Feature × Bool) :=
  g.enabled.eraseDups.map (·, true) ++ g.disabled.eraseDups.map (·, false)

/-- The object that a client would submit for the same settings. -/
def body (g : Given) : List (Chars × Value) :=
  [("lookback", .int g.lookback),
   ("buy_threshold", .float g.buyThreshold),
   ("sell_threshold", .float g.sellThreshold),
   ("bias", .float g.bias),
   ("model", .text g.model.label),
   ("marker_size", .text g.markerSize.label),
   ("features", .object (g.switches.map fun entry => (entry.1.id, .bool entry.2))),
   ("weights", .object ((lastMentions g.weights).map fun entry => (entry.1.id, .float entry.2)))]

/-- No feature is both enabled and disabled. -/
def Consistent (g : Given) : Prop := ∀ f ∈ g.enabled, f ∉ g.disabled

end Given

theorem last?_map_pair {α : Type} (features : List Feature) (a : α) (f : Feature) :
    last? (features.map (·, a)) f = if f ∈ features then some a else none := by
  induction features using List.reverseRecOn with
  | nil => rfl
  | append_singleton features g ih =>
      rw [List.map_append, List.map_singleton, last?_concat, ih]
      by_cases h : f = g <;> simp [h]

theorem last?_append {α : Type} (first second : List (Feature × α)) (f : Feature) :
    last? (first ++ second) f = (last? second f).or (last? first f) := by
  simp only [last?, List.filter_append, List.getLast?_append]
  cases ((second.filter (·.1 = f)).getLast?) <;> rfl

theorem find?_filterMap {α : Type} (said : Feature → Option α) (f : Feature)
    {features : List Feature} :
    ((features.filterMap fun g => (said g).map (g, ·)).find? fun entry => entry.1 == f) =
      if f ∈ features then (said f).map (f, ·) else none := by
  induction features with
  | nil => rfl
  | cons g rest ih =>
      by_cases h : g = f
      · subst h
        cases hs : said g with
        | none => simp [hs, ih]
        | some b => simp [hs]
      · cases hs : said g <;> simp [hs, ih, h, Ne.symm h]

/-- What is read for a feature is what is said last of it. -/
theorem submitted?_lastMentions {α : Type} (pairs : List (Feature × α)) (f : Feature) :
    Request.submitted? (lastMentions pairs) f = last? pairs f := by
  rw [Request.submitted?, lastMentions, find?_filterMap]
  simp only [List.mem_eraseDups]
  by_cases h : f ∈ pairs.map (·.1)
  · rw [if_pos h]
    cases last? pairs f <;> rfl
  · have silent : last? pairs f = none := by
      rwa [← Option.not_isSome_iff_eq_none, last?_isSome_iff]
    rw [if_neg h, silent, Option.map_none]

theorem mem_lastMentions_iff {α : Type} {pairs : List (Feature × α)} {entry : Feature × α} :
    entry ∈ lastMentions pairs ↔ last? pairs entry.1 = some entry.2 := by
  rw [lastMentions, List.mem_filterMap]
  constructor
  · rintro ⟨f, _, said⟩
    obtain ⟨a, last, rfl⟩ := Option.map_eq_some_iff.mp said
    exact last
  · intro last
    refine ⟨entry.1, ?_, by rw [last]; rfl⟩
    rw [List.mem_eraseDups, ← last?_isSome_iff, last]
    rfl

namespace Given

variable {g : Given}

/-- What is said of the features, one switch after the other. -/
def toggles (g : Given) : List (Feature × Bool) :=
  g.enabled.map (·, true) ++ g.disabled.map (·, false)

theorem last?_toggles (g : Given) (f : Feature) : last? g.toggles f =
    if f ∈ g.disabled then some false else if f ∈ g.enabled then some true else none := by
  rw [toggles, last?_append, last?_map_pair, last?_map_pair]
  by_cases off : f ∈ g.disabled <;> simp [off]

theorem lastMentions_toggles (h : g.Consistent) : lastMentions g.toggles = g.switches := by
  have apart : g.disabled.removeAll g.enabled = g.disabled := by
    refine List.filter_eq_self.mpr fun f off => ?_
    simpa using fun on => h f on off
  have on : ∀ f ∈ g.enabled.eraseDups, (last? g.toggles f).map (f, ·) = some (f, true) := by
    intro f member
    have enabled := List.mem_eraseDups.mp member
    simp [last?_toggles, enabled, h f enabled]
  have off : ∀ f ∈ g.disabled.eraseDups, (last? g.toggles f).map (f, ·) = some (f, false) := by
    intro f member
    simp [last?_toggles, List.mem_eraseDups.mp member]
  have mentioned : g.toggles.map (·.1) = g.enabled ++ g.disabled := by
    simp [toggles, Function.comp_def]
  rw [lastMentions, mentioned, List.eraseDups_append, apart, List.filterMap_append,
    List.filterMap_congr on, List.filterMap_congr off]
  simp only [List.filterMap_eq_map', switches]

/-- The order of switches is another one, and so is that of weights of different features. -/
structure Reordered (g other : Given) : Prop where
  lookback : other.lookback = g.lookback
  buyThreshold : other.buyThreshold = g.buyThreshold
  sellThreshold : other.sellThreshold = g.sellThreshold
  bias : other.bias = g.bias
  model : other.model = g.model
  markerSize : other.markerSize = g.markerSize
  enabled : other.enabled.Perm g.enabled
  disabled : other.disabled.Perm g.disabled
  weights : ∀ f, other.weights.filter (·.1 = f) = g.weights.filter (·.1 = f)
  output : other.output = g.output
  save : other.save = g.save
  copy : other.copy = g.copy

section Order

variable {other : Given}

theorem Reordered.consistent (r : g.Reordered other) (h : g.Consistent) : other.Consistent :=
  fun f on off => h f (r.enabled.subset on) (r.disabled.subset off)

theorem Reordered.last?_toggles (r : g.Reordered other) (f : Feature) :
    last? other.toggles f = last? g.toggles f := by
  rw [Given.last?_toggles, Given.last?_toggles]
  simp only [r.enabled.mem_iff, r.disabled.mem_iff]

theorem Reordered.last?_weights (r : g.Reordered other) (f : Feature) :
    last? other.weights f = last? g.weights f := by
  rw [last?, last?, r.weights]

end Order

theorem featuresOf_body (g : Given) : Request.featuresOf g.body = .ok g.switches := by
  have accepts (on : Bool) : Coercion.switch (.bool on) = .ok on := rfl
  exact Request.mapEntries_of_accepted accepts g.switches

theorem weightsOf_body_iff {g : Given} {weights : List (Feature × Binary64)} :
    Request.weightsOf g.body = .ok weights ↔ weights = lastMentions g.weights ∧
      ∀ f x, last? g.weights f = some x → Request.weightOk x = true := by
  have accepts (x : Binary64) : Coercion.float (.float x) = .ok x := rfl
  have read : Request.featureMap g.body "weights" Coercion.float = .ok (lastMentions g.weights) :=
    Request.mapEntries_of_accepted accepts _
  have inBounds : (lastMentions g.weights).find? (fun entry => !Request.weightOk entry.2) = none ↔
      ∀ f x, last? g.weights f = some x → Request.weightOk x = true := by
    simp only [List.find?_eq_none, mem_lastMentions_iff, Bool.not_eq_true', Bool.not_eq_false,
      Prod.forall]
  simp only [Request.weightsOf, read, bind, Except.bind, ← inBounds]
  cases (lastMentions g.weights).find? fun entry => !Request.weightOk entry.2 with
  | none => simp [eq_comm]
  | some entry => simp

theorem Reordered.find?_body {g other : Given} (r : g.Reordered other) {s : Request.Setting}
    (features : s ≠ .features) (weights : s ≠ .weights) :
    Value.find? s.name other.body = Value.find? s.name g.body := by
  simp only [body, r.lookback, r.buyThreshold, r.sellThreshold, r.bias, r.model, r.markerSize]
  cases s with
  | features => exact absurd rfl features
  | weights => exact absurd rfl weights
  | _ => rfl

/-- Settings that are accepted are accepted in any order, and are the same settings. -/
theorem Reordered.accepted {g other : Given} (r : g.Reordered other) (h : g.Consistent)
    {request : Request} (judged : Request.ofValue (.object g.body) = .ok request) :
    ∃ again, Request.ofValue (.object other.body) = .ok again ∧
      again.toConfig = request.toConfig := by
  have texts (g : Given) : Request.ofValue (.object g.body) = Request.ofEntries g.body :=
    Request.ofValue_of_texts (by simp [body, Chars.isText])
  rw [texts] at judged
  obtain ⟨held, _⟩ := Request.ofEntries_ok_iff.mp judged
  have features : request.features = g.switches :=
    Except.ok.inj ((held .features).symm.trans g.featuresOf_body)
  obtain ⟨weights, inBounds⟩ : request.weights = lastMentions g.weights ∧ _ :=
    weightsOf_body_iff.mp (held .weights)
  have plain (s : Request.Setting) (hf : s ≠ .features) (hw : s ≠ .weights) :
      s.judged other.body = .ok (s.held request) :=
    (Request.Setting.judged_congr (r.find?_body hf hw)).trans (held s)
  refine ⟨{ request with features := other.switches, weights := lastMentions other.weights },
    ?_, ?_⟩
  · rw [texts, Request.ofEntries_ok_iff]
    refine ⟨fun s => ?_, rfl⟩
    cases s with
    | features => exact other.featuresOf_body
    | weights =>
        refine weightsOf_body_iff.mpr ⟨rfl, fun f x last => inBounds f x ?_⟩
        rw [← r.last?_weights, last]
    | lookback => exact plain .lookback (by decide) (by decide)
    | buyThreshold => exact plain .buyThreshold (by decide) (by decide)
    | sellThreshold => exact plain .sellThreshold (by decide) (by decide)
    | bias => exact plain .bias (by decide) (by decide)
    | model => exact plain .model (by decide) (by decide)
    | markerSize => exact plain .markerSize (by decide) (by decide)
  · simp only [Request.toConfig, features, weights, ← lastMentions_toggles h,
      ← lastMentions_toggles (r.consistent h), submitted?_lastMentions, r.last?_toggles,
      r.last?_weights]

end Given

/-- What is to be done for options that were read. -/
def Arguments.plan (a : Arguments) (outputDirectory : Path) : Plan :=
  match a.config with
  | .error stop => stop.plan
  | .ok config =>
    match Script.generate config with
    | .error fault => .fail (.script fault)
    | .ok script => .emit script (a.targets outputDirectory) a.copy

theorem plan_of_ofWords {words : List String} {a : Arguments}
    (read : Arguments.ofWords words = .ok a) (outputDirectory : Path) :
    plan words outputDirectory = a.plan outputDirectory := by
  rw [plan, read]
  rfl

namespace Given

variable {g : Given}

/-- The message of a preview that asks for the script of these settings. -/
def message (g : Given) (id : Value) : Message :=
  .ofValue (.object [("type", .text "generate"), ("id", id), ("config", .object g.body)])

theorem reply_of_accepted {request : Request}
    (judged : Request.ofValue (.object g.body) = .ok request) {script : String}
    (made : Script.generate request.toConfig = .ok script) {c : Cache} (sound : c.Sound)
    (id : Value) : ∃ after, (g.message id).reply .scripts c =
      .ok (.ready id ⟨script, request.toConfig, Script.lineCount script⟩, after) := by
  obtain ⟨after, _, replied⟩ := Message.reply_of_accepted sound id judged made
  exact ⟨after, by rw [message, Message.ofValue_generate, replied]; rfl⟩

end Given

deriving instance DecidableEq for Arguments

end CommandLine
end IndicatorDesigner
