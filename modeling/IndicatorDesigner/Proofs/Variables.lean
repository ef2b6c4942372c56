import IndicatorDesigner.Proofs.Vocabulary
import Mathlib.Data.Nat.Bits

/-!
The variables of a script. A line introduces the names in front of its equality sign. Where every
line names only what is introduced further up, each variable has one line that introduces it, and
all its other places are below.
-/
namespace IndicatorDesigner.Script

/-- The variables that a line introduces, with commas between them. A type may stand before one. A
change of a variable introduces none. -/
def introduced (line : List Char) : List Word :=
  let target := line.takeWhile (· != '=')
  if ['=', ' '].isPrefixOf (line.dropWhile (· != '=')) &&
      target.all fun c => inWord c || c == ' ' || c == ',' then
    (target.splitOn ',').filterMap fun part => (words part).getLast?
  else []

/-- The variables of a script, in the order in which it introduces them. -/
def scriptVariables : List Word :=
  ["lookback".toList, "modelType".toList, "biasInput".toList, "buyThreshold".toList,
   "sellThreshold".toList, "markerSize".toList, "markerSizePine".toList,
   "useRSI".toList, "useMACD".toList, "useVOLUME".toList, "usePRICE".toList,
   "weightRSI".toList, "weightMACD".toList, "weightVOLUME".toList, "weightPRICE".toList,
   "rsiSource".toList, "normalizedRsi".toList, "macdFast".toList, "macdSlow".toList,
   "macdHist".toList, "normalizedMacd".toList, "volumeMean".toList, "normalizedVolume".toList,
   "priceMomentum".toList, "rangeNormalizedMomentum".toList, "modelSum".toList,
   "linearComponent".toList, "probability".toList, "buySignal".toList, "sellSignal".toList,
   "debugTable".toList]

/-- One line introduces the variable and has it once. No other line introduces it, and none further
up has it. -/
def IntroducedOnce (name : Word) (lines : List (List Char)) : Prop :=
  ∃ before line after, lines = before ++ line :: after ∧ name ∈ introduced line ∧
    (words line).count name = 1 ∧
    (∀ other ∈ before, name ∉ introduced other ∧ name ∉ words other) ∧
    ∀ other ∈ after, name ∉ introduced other

/-- What a line does to the variables. -/
structure Naming where
  introduces : List Word
  mentions : List Word
  deriving DecidableEq

def naming (line : List Char) : Naming :=
  ⟨introduced line, (words line).filter (· ∈ scriptVariables)⟩

/-- Each line introduces new variables, which it has once, and names no other ones that are not
known. -/
def Scoped (known : List Word) : List Naming → Prop
  | [] => True
  | line :: rest =>
    (∀ v ∈ line.introduces, v ∉ known ∧ line.mentions.count v = 1) ∧
      (∀ v ∈ line.mentions, v ∈ known ∨ v ∈ line.introduces) ∧
      Scoped (known ++ line.introduces) rest

instance decidableScoped : (known : List Word) → (lines : List Naming) →
    Decidable (Scoped known lines)
  | _, [] => inferInstanceAs (Decidable True)
  | known, line :: rest =>
    have := decidableScoped (known ++ line.introduces) rest
    inferInstanceAs (Decidable (_ ∧ _ ∧ _))

section Scope
variable {known : List Word} {lines : List (List Char)} {v : Word}

theorem Scoped.not_introduced (h : Scoped known (lines.map naming)) (old : v ∈ known) :
    ∀ line ∈ lines, v ∉ introduced line := by
  induction lines generalizing known with
  | nil => simp
  | cons first rest ih =>
      obtain ⟨new, _, behind⟩ := h
      intro line member
      rcases List.mem_cons.mp member with rfl | member
      · exact fun again => (new v again).1 old
      · exact ih behind (List.mem_append_left _ old) line member

theorem mem_mentions (member : v ∈ scriptVariables) {line : List Char} :
    v ∈ (naming line).mentions ↔ v ∈ words line := by
  simp [naming, member]

theorem count_mentions (member : v ∈ scriptVariables) (line : List Char) :
    (naming line).mentions.count v = (words line).count v :=
  List.count_filter (by simpa using member)

/-- A variable that is not known and is introduced on some line has its first place there. -/
theorem Scoped.introducedOnce (h : Scoped known (lines.map naming)) (member : v ∈ scriptVariables)
    (new : v ∉ known) (declared : v ∈ lines.flatMap introduced) : IntroducedOnce v lines := by
  -- The first line that introduces it is found; what the lines above introduced is known there.
  induction lines generalizing known with
  | nil => exact absurd declared List.not_mem_nil
  | cons first rest ih =>
      obtain ⟨fresh, scope, behind⟩ := h
      by_cases here : v ∈ introduced first
      · have once := (fresh v here).2
        rw [count_mentions member] at once
        exact ⟨[], first, rest, rfl, here, once, by simp,
          behind.not_introduced (List.mem_append_right _ here)⟩
      · have below : v ∈ rest.flatMap introduced :=
          (List.mem_append.mp declared).resolve_left here
        have unnamed : v ∉ words first := by
          rw [← mem_mentions member]
          exact fun named => (scope v named).elim new here
        obtain ⟨before, line, after, rfl, found, once, above, rest⟩ :=
          ih behind (fun old => (List.mem_append.mp old).elim new here) below
        refine ⟨first :: before, line, after, rfl, found, once, ?_, rest⟩
        intro other position
        rcases List.mem_cons.mp position with rfl | position
        · exact ⟨here, unnamed⟩
        · exact above other position

end Scope

/-- A text with a blank in place of each quote and nothing of what stands between quotes. -/
def unquoted : Bool → List Char → List Char
  | _, [] => []
  | quoted, c :: rest =>
    if c = '\'' then ' ' :: unquoted (!quoted) rest
    else if quoted then unquoted quoted rest
    else c :: unquoted quoted rest

/-- The words of a text that stand outside of quotes and are no numbers. -/
def codeWords (text : List Char) : List Word :=
  (words (unquoted false text)).filter fun word => decide (¬ ∀ c ∈ word, Decimal.IsPart c)

/-- The names that a line uses. A comment uses none. -/
def names (line : List Char) : List Word :=
  if ['/', '/'].isPrefixOf line then [] else codeWords line

/-- The names in a script that belong to the language. -/
def languageNames : List Word :=
  ["indicator".toList, "overlay".toList, "max_labels_count".toList, "max_lines_count".toList,
   "input".toList, "int".toList, "float".toList, "string".toList, "bool".toList, "true".toList,
   "false".toList, "minval".toList, "maxval".toList, "step".toList, "options".toList,
   "group".toList, "size".toList, "small".toList, "large".toList, "huge".toList, "ta".toList,
   "rsi".toList, "macd".toList, "stdev".toList, "sma".toList, "roc".toList, "close".toList,
   "volume".toList, "math".toList, "max".toList, "min".toList, "round".toList, "tanh".toList,
   "exp".toList, "clamp".toList, "if".toList, "else".toList, "and".toList, "var".toList,
   "plot".toList, "plotshape".toList, "alertcondition".toList, "title".toList, "message".toList,
   "offset".toList, "linewidth".toList, "style".toList, "style_dashed".toList, "color".toList,
   "new".toList, "cyan".toList, "green".toList, "red".toList, "lime".toList, "location".toList,
   "belowbar".toList, "abovebar".toList, "shape".toList, "triangleup".toList,
   "triangledown".toList, "table".toList, "position".toList, "top_right".toList,
   "border_width".toList, "cell".toList, "barstate".toList, "islast".toList, "str".toList,
   "tostring".toList]

theorem unquoted_append (quoted : Bool) (front back : List Char) :
    unquoted quoted (front ++ back) =
      unquoted quoted front ++ unquoted (quoted ^^ (front.count '\'').bodd) back := by
  induction front generalizing quoted with
  | nil => simp [unquoted]
  | cons c front ih =>
      by_cases quote : c = '\''
      · simp [unquoted, quote, ih, Nat.bodd_succ]
      · cases quoted <;> simp [unquoted, quote, ih]

theorem unquoted_eq_self {text : List Char} (h : '\'' ∉ text) : unquoted false text = text := by
  induction text with
  | nil => rfl
  | cons c text ih =>
      have plain : c ≠ '\'' := fun quote => h (quote ▸ List.mem_cons_self)
      simp [unquoted, plain, ih (List.not_mem_of_not_mem_cons h)]

end IndicatorDesigner.Script
