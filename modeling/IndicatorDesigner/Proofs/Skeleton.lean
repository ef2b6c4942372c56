import IndicatorDesigner.Proofs.Variables

/-!
The skeleton of a script: its lines without the literals, which is one fixed text. What is read from
a script line by line is read from its skeleton, as long as the reading is blind to literals. Words,
comparisons and starts of lines are read so, as the literals of whole periods are quiet.
-/
namespace IndicatorDesigner.Script

/-! Declarations around their literal -/

def Field.opening (f : Field) : List Char :=
  f.variableName.toList ++ (inputMark ++ f.inputKind.toList)

def Field.closing (f : Field) : List Char := ' ' :: f.arguments.toList ++ [')']

/-- The characters of a declaration without its literal. -/
def Field.bare (f : Field) : List Char :=
  f.opening ++ '(' :: ',' :: (' ' :: (spelledArguments f).1 ++ [')'])

theorem declaration_parts (f : Field) (literal : String) :
    (f.declaration literal).toList =
      f.opening ++ '(' :: (literal.toList ++ ',' :: f.closing) := by
  rw [toList_declaration, Field.opening, Field.closing]
  simp only [List.append_assoc]

theorem bare_eq_declaration (f : Field) : f.bare = (f.declaration "").toList := by
  rw [declaration_parts, Field.bare, Field.closing, ← (spelledArguments f).2]
  rfl

/-- The characters of the lines of a block, without literals. -/
def Block.bare : Block → List (List Char)
  | .modelControls =>
    (spelledLines .modelControls).1 ++
      [Field.lookback.bare, Field.model.bare, Field.bias.bare]
  | .thresholds => [Field.buyThreshold.bare, Field.sellThreshold.bare]
  | .markerSize => Field.markerSize.bare :: (spelledLines .markerSize).1
  | .featureToggles => Feature.all.map fun f => (Field.enabled f).bare
  | .featureWeights => Feature.all.map fun f => (Field.weight f).bare
  | b => (spelledLines b).1

/-- The lines of a script without its literals. -/
def skeleton : List (List Char) := [[]].intercalate (Block.all.map Block.bare) ++ [[]]

theorem map_intercalate {α β : Type} (f : α → β) (mark : List α) (parts : List (List α)) :
    (mark.intercalate parts).map f = (mark.map f).intercalate (parts.map (List.map f)) := by
  induction parts with
  | nil => rfl
  | cons part rest ih =>
      cases rest with
      | nil => simp
      | cons next rest =>
          rw [List.intercalate_cons_cons, List.map_append, List.map_append, ih]
          simp only [List.map_cons, List.intercalate_cons_cons]

theorem map_bare (b : Block) :
    b.template.map (fun line => (line.text fun _ => "").toList) = b.bare := by
  have fixed : (b.fixedLines.map Line.fixed).map (fun line => (line.text fun _ => "").toList) =
      (spelledLines b).1 := by
    rw [List.map_map]
    exact (spelledLines b).2
  cases b with
  | modelControls =>
      rw [Block.template, List.map_append, fixed]
      simp only [Block.bare, bare_eq_declaration]
      rfl
  | thresholds =>
      simp only [Block.bare, bare_eq_declaration]
      rfl
  | markerSize =>
      rw [Block.template, List.map_cons, fixed]
      simp only [Block.bare, bare_eq_declaration]
      rfl
  | featureToggles =>
      simp only [Block.bare, bare_eq_declaration]
      rfl
  | featureWeights =>
      simp only [Block.bare, bare_eq_declaration]
      rfl
  | _ => exact fixed

theorem map_template_bare :
    template.map (fun line => (line.text fun _ => "").toList) = skeleton := by
  have blocks : (Block.all.map Block.template).map
      (List.map fun line => (line.text fun _ => "").toList) = Block.all.map Block.bare := by
    rw [List.map_map]
    exact List.map_congr_left fun b _ => map_bare b
  rw [template, List.map_append, map_intercalate, blocks, skeleton]
  rfl

section Document
variable {α : Type} {literal : Field → String} {read : List Char → α}

/-- A reading that is blind to the literals reads a script as its skeleton. -/
theorem map_linesOf_document (line : ∀ f, '\n' ∉ (literal f).toList)
    (blind : ∀ f : Field, read (f.declaration (literal f)).toList = read f.bare) :
    (linesOf (document literal)).map read = skeleton.map read := by
  rw [linesOf_document line, ← map_template_bare, List.map_map, List.map_map]
  apply List.map_congr_left
  intro l _
  cases l with
  | fixed text => rfl
  | declare f => exact (blind f).trans (congrArg read (bare_eq_declaration f))

end Document

/-! Literals -/

/-- The words that tell fixed lines from declarations. -/
def foreign : List Word := ["ta".toList, "math".toList, "clamp".toList, "barstate".toList]

/-- A literal that adds nothing to the format of the line that it stands in. -/
structure Quiet (literal : String) : Prop where
  line : '\n' ∉ literal.toList
  above : '>' ∉ literal.toList
  quotes : (literal.toList.count '\'').bodd = false
  words : ∀ word ∈ words literal.toList, word ∉ scriptVariables ∧ word ∉ foreign
  names : ∀ word ∈ codeWords literal.toList, word ∈ languageNames

theorem quiet_of_isPart {literal : String} (h : ∀ c ∈ literal.toList, Decimal.IsPart c) :
    Quiet literal := by
  have quote : '\'' ∉ literal.toList := fun member => absurd (h _ member) (by decide)
  have number {word : Word} (member : word ∈ words literal.toList) :
      ∀ c ∈ word, Decimal.IsPart c := fun c hc => h c (subset_of_mem_words member hc)
  have letters : ∀ word ∈ scriptVariables ++ foreign, ¬ ∀ c ∈ word, Decimal.IsPart c := by
    decide +kernel
  refine ⟨fun member => absurd (h _ member) (by decide),
    fun member => absurd (h _ member) (by decide), ?_, ?_, ?_⟩
  · rw [List.count_eq_zero_of_not_mem quote]
    rfl
  · intro word member
    exact ⟨fun known => letters word (List.mem_append_left _ known) (number member),
      fun known => letters word (List.mem_append_right _ known) (number member)⟩
  · intro word member
    rw [codeWords, unquoted_eq_self quote, List.mem_filter, decide_eq_true_eq] at member
    exact absurd (number member.1) member.2

theorem quiet_of_mem_choices {literal : String} (h : literal ∈ choices) : Quiet literal := by
  have lines : ∀ literal ∈ choices, '\n' ∉ literal.toList ∧ '>' ∉ literal.toList ∧
      (literal.toList.count '\'').bodd = false := by
    decide +kernel
  have quiet : ∀ literal ∈ choices,
      (∀ word ∈ words literal.toList, word ∉ scriptVariables ∧ word ∉ foreign) ∧
      ∀ word ∈ codeWords literal.toList, word ∈ languageNames := by
    decide +kernel
  obtain ⟨line, above, quotes⟩ := lines literal h
  obtain ⟨words, names⟩ := quiet literal h
  exact ⟨line, above, quotes, words, names⟩

theorem isPart_toString_int (n : Int) : ∀ c ∈ (toString n).toList, Decimal.IsPart c := by
  cases n with
  | ofNat k => exact Decimal.isPart_toString k
  | negSucc k => exact Decimal.isPart_append (by decide) (Decimal.isPart_toString (k + 1))

/-- The literals of a script are quiet if its period is a whole number. -/
theorem quiet_literal {c : Config} {n : Int} (period : c.lookback = .int n) {f : Field}
    {text : String} (h : f.literal c = .ok text) : Quiet text := by
  by_cases other : f = .lookback
  · rw [other, Field.literal, period, plainText] at h
    split at h
    · cases h
    · rw [← Except.ok.inj h]
      exact quiet_of_isPart (isPart_toString_int n)
  · rcases literal_forms other h with number | choice
    · exact quiet_of_isPart number
    · exact quiet_of_mem_choices choice

theorem quiet_empty : Quiet "" := quiet_of_isPart (by decide)

/-! What is read from a declaration -/

section Declaration
variable (f : Field) {literal : String}

theorem closing_eq_spelled : f.closing = ' ' :: (spelledArguments f).1 ++ [')'] := by
  rw [← (spelledArguments f).2]
  rfl

theorem words_declaration (literal : String) :
    words (f.declaration literal).toList =
      words f.opening ++ (words literal.toList ++ words f.closing) := by
  rw [declaration_parts, words_append (by decide), words_append (by decide)]

theorem introduced_declaration (literal : String) :
    introduced (f.declaration literal).toList = [f.variableName.toList] := by
  have target : ∀ f : Field, '=' ∉ f.variableName.toList ++ [' '] ∧
      ((f.variableName.toList ++ [' ']).all fun c => inWord c || c == ' ' || c == ',') = true ∧
      (((f.variableName.toList ++ [' ']).splitOn ',').filterMap fun part =>
        (words part).getLast?) = [f.variableName.toList] := by
    decide +kernel
  obtain ⟨plain, named, read⟩ := target f
  have parts : (f.declaration literal).toList = (f.variableName.toList ++ [' ']) ++
      '=' :: ' ' :: (['i', 'n', 'p', 'u', 't', '.'] ++ (f.inputKind.toList ++ '(' ::
        (literal.toList ++ ',' :: f.closing))) := by
    rw [declaration_parts, Field.opening, inputMark]
    simp
  rw [parts, introduced, takeWhile_until plain, dropWhile_until plain]
  simp [named, read]

theorem naming_declaration (h : Quiet literal) :
    naming (f.declaration literal).toList = naming f.bare := by
  have silent {literal : String} (h : Quiet literal) :
      (words literal.toList).filter (· ∈ scriptVariables) = [] := by
    rw [List.filter_eq_nil_iff]
    intro word member
    simpa using (h.words word member).1
  rw [bare_eq_declaration]
  simp only [naming, introduced_declaration, words_declaration, List.filter_append, silent h,
    silent quiet_empty]

theorem foreign_declaration (h : Quiet literal) :
    ∀ word ∈ foreign, word ∉ words (f.declaration literal).toList := by
  have around : ∀ f : Field, ∀ word ∈ foreign, word ∉ words f.opening ∧
      word ∉ words (' ' :: (spelledArguments f).1 ++ [')']) := by
    decide +kernel
  intro word member
  have apart := around f word member
  rw [← closing_eq_spelled] at apart
  rw [words_declaration, List.mem_append, List.mem_append, not_or, not_or]
  exact ⟨apart.1, fun inside => (h.words word inside).2 member, apart.2⟩

/-- A text that encloses a foreign word occurs in no declaration. -/
theorem occurrences_declaration (h : Quiet literal) {part : List Char}
    (marked : ∃ word ∈ enclosed part, word ∈ foreign) :
    occurrences part (f.declaration literal).toList = 0 := by
  obtain ⟨word, inside, member⟩ := marked
  have nonempty : ∀ word ∈ foreign, word ≠ [] := by
    decide
  refine occurrences_eq_zero fun within => foreign_declaration f h word member ?_
  exact List.mem_filter.mpr ⟨enclosed_subset within inside, by simpa using nonempty word member⟩

theorem above_declaration (h : Quiet literal) : '>' ∉ (f.declaration literal).toList := by
  have around : ∀ f : Field, '>' ∉ f.opening ∧ '>' ∉ ' ' :: (spelledArguments f).1 ++ [')'] := by
    decide +kernel
  have apart := around f
  rw [← closing_eq_spelled] at apart
  rw [declaration_parts]
  simp [apart, h.above]

theorem names_declaration (h : Quiet literal) :
    ∀ name ∈ names (f.declaration literal).toList,
      name ∈ scriptVariables ∨ name ∈ languageNames := by
  have around : ∀ f : Field, (f.opening.count '\'').bodd = false ∧
      (∀ name ∈ codeWords f.opening, name ∈ scriptVariables ∨ name ∈ languageNames) ∧
      ∀ name ∈ codeWords (' ' :: (spelledArguments f).1 ++ [')']), name ∈ languageNames := by
    decide +kernel
  obtain ⟨quotes, front, back⟩ := around f
  rw [← closing_eq_spelled] at back
  have parts : codeWords (f.declaration literal).toList =
      codeWords f.opening ++ (codeWords literal.toList ++ codeWords f.closing) := by
    have code : unquoted false (f.declaration literal).toList = unquoted false f.opening ++
        '(' :: (unquoted false literal.toList ++ ',' :: unquoted false f.closing) := by
      rw [declaration_parts, unquoted_append, quotes]
      simp [unquoted, unquoted_append, h.quotes]
    rw [codeWords, code, words_append (by decide), words_append (by decide), List.filter_append,
      List.filter_append]
    rfl
  intro name member
  have read : name ∈ codeWords (f.declaration literal).toList := by
    rw [names] at member
    split at member
    · exact absurd member List.not_mem_nil
    · exact member
  rw [parts, List.mem_append, List.mem_append] at read
  rcases read with read | read | read
  · exact front name read
  · exact .inr (h.names name read)
  · exact .inr (back name read)

theorem getLast?_declaration (literal : String) :
    (f.declaration literal).toList.getLast? = some ')' := by
  rw [declaration_parts, Field.closing]
  simp [List.getLast?_cons]

/-- A start that does not reach into the literal is one whatever the literal is. -/
theorem starts_declaration {mark : List Char}
    (h : f.opening ++ ['('] <+: mark → mark = f.opening ++ ['(']) (literal : String) :
    mark.isPrefixOf (f.declaration literal).toList = mark.isPrefixOf f.bare := by
  have start (back : List Char) :
      mark <+: f.opening ++ '(' :: back ↔ mark <+: f.opening ++ ['('] := by
    rw [List.append_cons]
    constructor
    · intro starts
      rcases List.prefix_or_prefix_of_prefix starts (List.prefix_append _ back) with short | long
      · exact short
      · exact h long ▸ List.prefix_refl _
    · exact List.prefix_append_of_prefix
  rw [Bool.eq_iff_iff, List.isPrefixOf_iff_prefix, List.isPrefixOf_iff_prefix, bare_eq_declaration,
    declaration_parts, declaration_parts]
  exact (start _).trans (start _).symm

end Declaration

end IndicatorDesigner.Script
