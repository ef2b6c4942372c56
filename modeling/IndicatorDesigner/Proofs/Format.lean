import IndicatorDesigner.Proofs.Skeleton

/-!
The format of a script. Whatever the settings are, as long as the period is a whole number and there
is a script, it ends in one newline, declares, computes and adds each feature once and in order, has
a fixed number of outputs, and introduces every variable once and above all its other places.
-/
namespace IndicatorDesigner.Script

/-- The feature of a line, where the lines of the features start as given. -/
def featureOf? (start : Feature → String) (line : List Char) : Option Feature :=
  Feature.all.find? fun f => (start f).toList.isPrefixOf line

def switchStart (f : Feature) : String := "use" ++ f.suffix ++ " = input.bool("

def weightStart (f : Feature) : String := "weight" ++ f.suffix ++ " = input.float("

def termLine (f : Feature) : String :=
  "modelSum += use" ++ f.suffix ++ " ? weight" ++ f.suffix ++ " * " ++ f.series ++ " : 0.0"

def fragment (f : Feature) : String := "\n".intercalate f.formula

/-- How many lines of a script start with a text. -/
def linesStarting (start : String) (script : String) : Nat :=
  (linesOf script).countP start.toList.isPrefixOf

/-- What holds of the format of a script. -/
structure WellFormed (script : String) : Prop where
  ending : ∃ front last, script.toList = front ++ [last, '\n'] ∧ last ≠ '\n'
  -- Each feature has its lines once, and the features keep their order.
  switches : (linesOf script).filterMap (featureOf? switchStart) = Feature.all
  weights : (linesOf script).filterMap (featureOf? weightStart) = Feature.all
  fragments : ∀ f, occurrences (fragment f).toList script.toList = 1
  fragmentOrder : InOrder (Feature.all.map fun f => (fragment f).toList) script.toList
  terms : (linesOf script).filter "modelSum += ".toList.isPrefixOf =
    Feature.all.map fun f => (termLine f).toList
  plots : linesStarting "plot(" script = 3
  markers : linesStarting "plotshape(" script = 2
  alerts : linesStarting "alertcondition(" script = 2
  clamp : occurrences "math.clamp(".toList script.toList = 1
  status : occurrences "if barstate.islast".toList script.toList = 1
  guard : occurrences "buyThreshold > sellThreshold".toList script.toList = 2
  -- No name is used that is neither a variable nor one of the language.
  introductions : (linesOf script).flatMap introduced = scriptVariables
  scope : ∀ name ∈ scriptVariables, IntroducedOnce name (linesOf script)
  known : ∀ line ∈ linesOf script, ∀ name ∈ names line,
    name ∈ scriptVariables ∨ name ∈ languageNames

section Intercalate
variable {α : Type} {mark : List α} {parts : List (List α)}

theorem suffix_intercalate (nonempty : parts ≠ []) (front : List (List α)) :
    mark.intercalate parts <:+ mark.intercalate (front ++ parts) := by
  induction front with
  | nil => exact List.suffix_rfl
  | cons part front ih =>
      obtain ⟨next, rest, whole⟩ := List.exists_cons_of_ne_nil
        (List.append_ne_nil_of_right_ne_nil front nonempty)
      rw [List.cons_append, whole, List.intercalate_cons_cons, ← whole]
      exact ih.trans (List.suffix_append _ _)

theorem prefix_intercalate (nonempty : parts ≠ []) (back : List (List α)) :
    mark.intercalate parts <+: mark.intercalate (parts ++ back) := by
  induction parts with
  | nil => exact absurd rfl nonempty
  | cons part rest ih =>
      cases rest with
      | nil =>
          cases back with
          | nil => exact List.prefix_rfl
          | cons next back =>
              rw [List.intercalate_singleton, List.singleton_append, List.intercalate_cons_cons,
                List.append_assoc]
              exact List.prefix_append _ _
      | cons next rest =>
          rw [List.cons_append, List.cons_append, List.intercalate_cons_cons,
            List.intercalate_cons_cons]
          exact (List.prefix_append_right_inj _).mpr (ih (by simp))

theorem infix_intercalate (nonempty : parts ≠ []) {all : List (List α)} (h : parts <:+: all) :
    mark.intercalate parts <:+: mark.intercalate all := by
  obtain ⟨front, back, rfl⟩ := h
  rw [List.append_assoc]
  exact (prefix_intercalate nonempty back).isInfix.trans
    (suffix_intercalate (by simp [nonempty]) front).isInfix

end Intercalate

theorem template_within (b : Block) : b.template <:+: template := by
  have among : [b.template] <:+: Block.all.map Block.template := by
    obtain ⟨front, back, blocks⟩ := List.append_of_mem (List.mem_map_of_mem b.mem_all)
    exact ⟨front, back, by rw [blocks, List.append_assoc, List.singleton_append]⟩
  have within : [Line.fixed ""].intercalate [b.template] <:+:
      [Line.fixed ""].intercalate (Block.all.map Block.template) :=
    infix_intercalate (by simp) among
  rw [List.intercalate_singleton] at within
  exact within.trans (List.prefix_append _ _).isInfix

theorem intercalate_formulaLines (features : List Feature) :
    "\n".intercalate (Block.formulaLines features) =
      "\n\n".intercalate (features.map fragment) := by
  induction features with
  | nil => rfl
  | cons f rest ih =>
      cases rest with
      | nil => simp [Block.formulaLines, fragment]
      | cons next rest =>
          have lines : Block.formulaLines (f :: next :: rest) =
              f.formula ++ "" :: Block.formulaLines (next :: rest) := rfl
          have nonempty : f.formula ≠ [] := by
            cases f <;> decide
          have more : Block.formulaLines (next :: rest) ≠ [] := by
            cases rest <;> cases next <;> simp [Block.formulaLines, Feature.formula]
          have blank : "\n\n" = "\n" ++ "\n" := rfl
          rw [lines, String.intercalate_append_of_ne_nil nonempty (by simp),
            String.intercalate_cons_of_ne_nil more, ih]
          simp only [List.map_cons, String.intercalate_cons_cons, fragment]
          rw [blank]
          simp only [String.append_assoc, String.empty_append]

theorem mem_features (f : Feature) : f ∈ Feature.all := by
  cases f <;> decide

instance {p : Feature → Prop} [DecidablePred p] : Decidable (∀ f, p f) :=
  decidable_of_iff (∀ f ∈ Feature.all, p f) ⟨fun h f => h f (mem_features f), fun h f _ => h f⟩

/-! The skeleton -/

def firstLine (f : Feature) : List Char := (f.formula.headD "").toList

/-- A start of lines that does not reach into the literal of a declaration. -/
def ShortStart (start : List Char) : Prop :=
  ∀ f : Field, f.opening ++ ['('] <+: start → start = f.opening ++ ['(']

/-- A start of lines that no declaration has. -/
def ForeignStart (start : List Char) : Prop :=
  ∀ f : Field, ¬ f.opening ++ ['('] <+: start ∧ ¬ start <+: f.bare

instance (start : List Char) : Decidable (ShortStart start) :=
  inferInstanceAs (Decidable (∀ _ : Field, _ → _))

instance (start : List Char) : Decidable (ForeignStart start) :=
  inferInstanceAs (Decidable (∀ _ : Field, _ ∧ _))

theorem starts_apart :
    (∀ f, ShortStart (switchStart f).toList) ∧ (∀ f, ShortStart (weightStart f).toList) ∧
    ForeignStart "modelSum += ".toList ∧ ForeignStart "plot(".toList ∧
    ForeignStart "plotshape(".toList ∧ ForeignStart "alertcondition(".toList := by
  decide +kernel

theorem starts_skeleton :
    skeleton.filterMap (featureOf? switchStart) = Feature.all ∧
    skeleton.filterMap (featureOf? weightStart) = Feature.all ∧
    skeleton.filter "modelSum += ".toList.isPrefixOf =
      Feature.all.map (fun f => (termLine f).toList) ∧
    skeleton.countP "plot(".toList.isPrefixOf = 3 ∧
    skeleton.countP "plotshape(".toList.isPrefixOf = 2 ∧
    skeleton.countP "alertcondition(".toList.isPrefixOf = 2 := by
  decide +kernel

theorem occurrences_skeleton :
    (skeleton.map (occurrences "math.clamp(".toList)).sum = 1 ∧
    (skeleton.map (occurrences "if barstate.islast".toList)).sum = 1 ∧
    (skeleton.map (occurrences "buyThreshold > sellThreshold".toList)).sum = 2 ∧
    ∀ f : Feature, (skeleton.map (occurrences (firstLine f))).sum = 1 := by
  decide +kernel

theorem names_skeleton :
    skeleton.flatMap introduced = scriptVariables ∧ Scoped [] (skeleton.map naming) := by
  decide +kernel

section Document
variable {literal : Field → String} (quiet : ∀ f, Quiet (literal f))
include quiet

/-! Lines -/

theorem features_document {start : Feature → String}
    (apart : ∀ g, ShortStart (start g).toList) :
    (linesOf (document literal)).filterMap (featureOf? start) =
      skeleton.filterMap (featureOf? start) := by
  have blind (f : Field) :
      featureOf? start (f.declaration (literal f)).toList = featureOf? start f.bare := by
    simp only [featureOf?, starts_declaration f (apart _ f)]
  have read := congrArg (List.filterMap id) (map_linesOf_document (fun f => (quiet f).line) blind)
  rw [List.filterMap_map, List.filterMap_map] at read
  exact read

/-- The lines that start as no declaration does are those of the skeleton. -/
theorem filter_document {start : List Char} (apart : ForeignStart start) :
    (linesOf (document literal)).filter start.isPrefixOf = skeleton.filter start.isPrefixOf := by
  have blind (f : Field) : Option.guard start.isPrefixOf (f.declaration (literal f)).toList =
      Option.guard start.isPrefixOf f.bare := by
    have none : start.isPrefixOf f.bare = false := by
      rw [Bool.eq_false_iff, Ne, List.isPrefixOf_iff_prefix]
      exact (apart f).2
    have starts := starts_declaration f (fun long => absurd long (apart f).1) (literal f)
    simp only [Option.guard, starts, none]
    rfl
  have read := congrArg (List.filterMap id) (map_linesOf_document (fun f => (quiet f).line) blind)
  rwa [List.filterMap_map, List.filterMap_map, Function.id_comp, List.filterMap_eq_filter] at read

theorem linesStarting_document {start : String} (apart : ForeignStart start.toList) :
    linesStarting start (document literal) = skeleton.countP start.toList.isPrefixOf := by
  rw [linesStarting, List.countP_eq_length_filter, filter_document quiet apart,
    List.countP_eq_length_filter]

/-! Occurrences -/

/-- A text that no declaration has occurs in a script as often as in its skeleton. -/
theorem occurrences_document {part : List Char} (line : '\n' ∉ part) (nonempty : part ≠ [])
    (absent : ∀ (f : Field) {literal : String}, Quiet literal →
      occurrences part (f.declaration literal).toList = 0) :
    occurrences part (document literal).toList = (skeleton.map (occurrences part)).sum := by
  have blind (f : Field) : occurrences part (f.declaration (literal f)).toList =
      occurrences part f.bare := by
    rw [bare_eq_declaration, absent f (quiet f), absent f quiet_empty]
  rw [occurrences_linesOf line nonempty, map_linesOf_document (fun f => (quiet f).line) blind]

/-- So does a text that encloses a foreign word. -/
theorem occurrences_document_of_enclosed {part : List Char} (line : '\n' ∉ part)
    (marked : ∃ word ∈ enclosed part, word ∈ foreign) :
    occurrences part (document literal).toList = (skeleton.map (occurrences part)).sum := by
  refine occurrences_document quiet line ?_ fun f _ quiet => occurrences_declaration f quiet marked
  rintro rfl
  exact absurd marked (by decide)

theorem guard_document :
    occurrences "buyThreshold > sellThreshold".toList (document literal).toList =
      (skeleton.map (occurrences "buyThreshold > sellThreshold".toList)).sum := by
  refine occurrences_document quiet (by decide) (by decide) fun f _ quiet => ?_
  refine occurrences_eq_zero fun within => above_declaration f quiet ?_
  exact within.subset (by decide)

/-- The first line of a formula occurs once, so the formula does not occur twice. -/
theorem fragment_document_le (f : Feature) :
    occurrences (fragment f).toList (document literal).toList ≤ 1 := by
  have start : ∀ f : Feature, firstLine f <+: (fragment f).toList ∧ '\n' ∉ firstLine f ∧
      ∃ word ∈ enclosed (firstLine f), word ∈ foreign := by
    decide +kernel
  obtain ⟨first, line, marked⟩ := start f
  -- The formula itself goes over two lines, so its occurrences are not those of the lines.
  calc occurrences (fragment f).toList (document literal).toList
      ≤ occurrences (firstLine f) (document literal).toList := occurrences_le_of_start first
    _ = (skeleton.map (occurrences (firstLine f))).sum :=
        occurrences_document_of_enclosed quiet line marked
    _ ≤ 1 := (occurrences_skeleton.2.2.2 f).le

/-- The lines of a block stand together. -/
theorem fixedLines_within {b : Block} {lines : List String}
    (h : lines.map Line.fixed <:+: b.template) :
    lines.map String.toList <:+: linesOf (document literal) := by
  have within := (h.trans (template_within b)).map fun line => (line.text literal).toList
  rw [linesOf_document fun f => (quiet f).line]
  rwa [List.map_map] at within

theorem fragmentOrder_document :
    InOrder (Feature.all.map fun f => (fragment f).toList) (document literal).toList := by
  have lines : (Block.formulaLines Feature.all).map Line.fixed <:+:
      Block.featureEngineering.template := (List.suffix_cons _ _).isInfix
  have nonempty : (Block.formulaLines Feature.all).map String.toList ≠ [] := by
    simp [Block.formulaLines, Feature.all, Feature.formula]
  have within : ['\n'].intercalate ((Block.formulaLines Feature.all).map String.toList) <:+:
      ['\n'].intercalate (linesOf (document literal)) :=
    infix_intercalate nonempty (fixedLines_within quiet lines)
  have joined : ['\n'].intercalate ((Block.formulaLines Feature.all).map String.toList) =
      ['\n', '\n'].intercalate (Feature.all.map fun f => (fragment f).toList) := by
    have text := congrArg String.toList (intercalate_formulaLines Feature.all)
    rwa [String.toList_intercalate, String.toList_intercalate, List.map_map] at text
  rw [joined, linesOf, List.intercalate_splitOn] at within
  obtain ⟨front, back, whole⟩ := within
  rw [← whole, List.append_assoc]
  exact .intercalate _ _ front back

theorem fragment_document (f : Feature) :
    occurrences (fragment f).toList (document literal).toList = 1 := by
  have within := (fragmentOrder_document quiet).within (fragment f).toList
    (List.mem_map_of_mem (mem_features f))
  exact Nat.le_antisymm (fragment_document_le quiet f) (occurrences_pos within)

theorem ending_document :
    ∃ front last, (document literal).toList = front ++ [last, '\n'] ∧ last ≠ '\n' := by
  -- The last line but one ends in a bracket in every script, and the last one is empty.
  have last : skeleton.map List.getLast? =
      (skeleton.map List.getLast?).dropLast.dropLast ++ [some ')', none] := by
    decide +kernel
  have blind (f : Field) :
      (f.declaration (literal f)).toList.getLast? = f.bare.getLast? := by
    rw [bare_eq_declaration, getLast?_declaration, getLast?_declaration]
  have read := map_linesOf_document (fun f => (quiet f).line) blind
  rw [last] at read
  obtain ⟨front, back, lines, _, ends⟩ := List.map_eq_append_iff.mp read
  obtain ⟨line, more, rfl, closed, ends⟩ := List.map_eq_cons_iff.mp ends
  obtain ⟨blank, rest, rfl, empty, nothing⟩ := List.map_eq_cons_iff.mp ends
  obtain rfl := List.getLast?_eq_none_iff.mp empty
  obtain rfl := List.map_eq_nil_iff.mp nothing
  obtain ⟨text, rfl⟩ := List.getLast?_eq_some_iff.mp closed
  have tail : ['\n'].intercalate [text ++ [')'], []] <:+
      ['\n'].intercalate (front ++ [text ++ [')'], []]) :=
    suffix_intercalate (by simp) front
  rw [← lines, linesOf, List.intercalate_splitOn] at tail
  obtain ⟨start, whole⟩ := tail
  refine ⟨start ++ text, ')', ?_, by decide⟩
  rw [← whole]
  simp [List.intercalate_cons_cons]

/-! Variables -/

theorem introductions_document :
    (linesOf (document literal)).flatMap introduced = scriptVariables := by
  have blind (f : Field) :
      introduced (f.declaration (literal f)).toList = introduced f.bare := by
    rw [bare_eq_declaration, introduced_declaration, introduced_declaration]
  rw [List.flatMap, map_linesOf_document (fun f => (quiet f).line) blind]
  exact names_skeleton.1

theorem scope_document :
    ∀ name ∈ scriptVariables, IntroducedOnce name (linesOf (document literal)) := by
  have blind (f : Field) : naming (f.declaration (literal f)).toList = naming f.bare :=
    naming_declaration f (quiet f)
  have lines := map_linesOf_document (fun f => (quiet f).line) blind
  intro name member
  apply Scoped.introducedOnce _ member List.not_mem_nil
  · rwa [introductions_document quiet]
  · rw [lines]
    exact names_skeleton.2

theorem known_document :
    ∀ line ∈ linesOf (document literal), ∀ name ∈ names line,
      name ∈ scriptVariables ∨ name ∈ languageNames := by
  have known : ∀ b : Block, ∀ text ∈ b.fixedLines, ∀ name ∈ names text.toList,
      name ∈ scriptVariables ∨ name ∈ languageNames :=
    forall_fixedLines (p := fun line => ∀ name ∈ names line,
      name ∈ scriptVariables ∨ name ∈ languageNames) (by decide +kernel)
  rw [linesOf_document fun f => (quiet f).line]
  intro line member
  obtain ⟨l, hl, rfl⟩ := List.mem_map.mp member
  cases l with
  | declare f => exact names_declaration f (quiet f)
  | fixed text =>
      rcases fixed_mem_template hl with rfl | ⟨b, hb⟩
      · exact fun name read => absurd read List.not_mem_nil
      · exact known b text hb

end Document

/-- A script whose period is a whole number has its format, whatever the settings are. -/
theorem generate_wellFormed {c : Config} {n : Int} {script : String} (period : c.lookback = .int n)
    (h : generate c = .ok script) : WellFormed script := by
  obtain ⟨literal, written, rfl⟩ := literals_of_generate h
  have quiet (f : Field) : Quiet (literal f) := quiet_literal period (written f)
  have ⟨use, weight, term, plot, marker, alert⟩ := starts_apart
  have ⟨switches, weights, terms, plots, markers, alerts⟩ := starts_skeleton
  have ⟨clamp, status, guard, _⟩ := occurrences_skeleton
  exact {
    ending := ending_document quiet
    switches := (features_document quiet use).trans switches
    weights := (features_document quiet weight).trans weights
    fragments := fragment_document quiet
    fragmentOrder := fragmentOrder_document quiet
    terms := (filter_document quiet term).trans terms
    plots := (linesStarting_document quiet plot).trans plots
    markers := (linesStarting_document quiet marker).trans markers
    alerts := (linesStarting_document quiet alert).trans alerts
    clamp := (occurrences_document_of_enclosed quiet (by decide) (by decide)).trans clamp
    status := (occurrences_document_of_enclosed quiet (by decide) (by decide)).trans status
    guard := (guard_document quiet).trans guard
    introductions := introductions_document quiet
    scope := scope_document quiet
    known := known_document quiet }

/-- A period far out of range and a bias that is written with letters. -/
theorem wellFormed_with_written_nan :
    let c : Config := { Config.standard with
      lookback := .int (-4300), bias := .text "-nan12", markerSize := .large, model := .linearSvm }
    c.lookback = .int (-4300) ∧ ∃ script, generate c = .ok script ∧ WellFormed script := by
  intro c
  have written (f : Field) : ∃ text : String, f.literal c = .ok text := by
    cases f with
    | enabled f => exact ⟨_, rfl⟩
    | weight f => cases f <;> exact ⟨_, rfl⟩
    | _ => exact ⟨_, rfl⟩
  choose literal hl using written
  have generated := generate_of_literals hl
  exact ⟨rfl, _, generated, generate_wellFormed rfl generated⟩

end IndicatorDesigner.Script
