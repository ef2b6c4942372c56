import IndicatorDesigner.Proofs.Lines
import IndicatorDesigner.Proofs.Reading

/-!
The numeric inputs that a script declares, read back from its text: the variable, the default and
the two ends of the range, each as an exact number.
-/
namespace IndicatorDesigner.Script

/-- A numeric input of a script. -/
structure NumericInput where
  name : String
  value : Rat
  least : Rat
  greatest : Rat

/-- The number that an argument gives to a name. -/
def option? (name : List Char) (argument : List Char) : Option Rat :=
  if (' ' :: name ++ ['=']).isPrefixOf argument then
    Numeral.rational? (argument.drop (name.length + 2))
  else none

/-- The range that some of the arguments give. -/
def rangeOf? (arguments : List (List Char)) : Option (Rat × Rat) := do
  let least ← arguments.findSome? (option? ['m', 'i', 'n', 'v', 'a', 'l'])
  let greatest ← arguments.findSome? (option? ['m', 'a', 'x', 'v', 'a', 'l'])
  some (least, greatest)

/-- What stands between a variable and the kind of its input. -/
def inputMark : List Char := [' ', '=', ' ', 'i', 'n', 'p', 'u', 't', '.']

/-- The numeric input that a line declares. Arguments stand between commas, the default first. -/
def numericInput? (line : List Char) : Option NumericInput :=
  let name := line.takeWhile (· != ' ')
  let call := line.dropWhile (· != ' ')
  if inputMark.isPrefixOf call then
    match ((call.dropWhile (· != '(')).drop 1).splitOn ',' with
    | [] => none
    | value :: arguments => do
      let value ← Numeral.rational? value
      let (least, greatest) ← rangeOf? arguments
      some ⟨String.ofList name, value, least, greatest⟩
  else none

/-- The numeric inputs of a script, in order. -/
def numericInputs (script : String) : List NumericInput :=
  (linesOf script).filterMap numericInput?

theorem numericInput?_fixedLines (b : Block) :
    ∀ text ∈ b.fixedLines, numericInput? text.toList = none := by
  intro text member
  rw [← Option.isNone_iff_eq_none]
  revert text
  apply forall_fixedLines (p := fun line => (numericInput? line).isNone = true)
  decide +kernel

/-- The range of a field as its declaration writes it. -/
def Field.range? : Field → Option (Rat × Rat)
  | .lookback => some (50, 200)
  | .bias => some (-10, 10)
  | .buyThreshold => some (1 / 2, 9 / 10)
  | .sellThreshold => some (1 / 10, 1 / 2)
  | .weight _ => some (-5, 5)
  | _ => none

theorem rangeOf?_arguments (f : Field) :
    rangeOf? ((' ' :: f.arguments.toList ++ [')']).splitOn ',') = f.range? := by
  have written : ∀ f : Field,
      rangeOf? ((' ' :: (spelledArguments f).1 ++ [')']).splitOn ',') = f.range? := by
    decide +kernel
  rw [(spelledArguments f).2]
  exact written f

theorem takeWhile_until {c : Char} {front : List Char} (h : c ∉ front) (back : List Char) :
    (front ++ c :: back).takeWhile (· != c) = front := by
  have apart : ∀ a ∈ front, (a != c) = true := by
    intro a ha
    exact bne_iff_ne.mpr fun e => h (e ▸ ha)
  rw [List.takeWhile_append_of_pos apart, List.takeWhile_cons_of_neg (by simp), List.append_nil]

theorem dropWhile_until {c : Char} {front : List Char} (h : c ∉ front) (back : List Char) :
    (front ++ c :: back).dropWhile (· != c) = c :: back := by
  have apart : ∀ a ∈ front, (a != c) = true := by
    intro a ha
    exact bne_iff_ne.mpr fun e => h (e ▸ ha)
  rw [List.dropWhile_append_of_pos apart, List.dropWhile_cons_of_neg (by simp)]

/-- The numeric input that a field with a written value is. -/
def Field.input? (literal : String) (f : Field) : Option NumericInput := do
  let value ← Numeral.rational? literal.toList
  let (least, greatest) ← f.range?
  some ⟨f.variableName, value, least, greatest⟩

theorem toList_declaration (f : Field) (literal : String) :
    (f.declaration literal).toList = f.variableName.toList ++ (inputMark ++ (f.inputKind.toList ++
      '(' :: (literal.toList ++ ',' :: (' ' :: f.arguments.toList ++ [')'])))) := by
  have marks : " = input.".toList = inputMark ∧ "(".toList = ['('] ∧ ", ".toList = [',', ' '] ∧
      ")".toList = [')'] := by decide
  simp [Field.declaration, String.toList_append, marks]

/-- The declaration of a field is read as its variable, the written value and the range. -/
theorem numericInput?_declaration (f : Field) {literal : String} (h : ',' ∉ literal.toList) :
    numericInput? (f.declaration literal).toList = f.input? literal := by
  have words : ∀ f : Field,
      ' ' ∉ f.variableName.toList ∧ '(' ∉ inputMark ++ f.inputKind.toList := by
    decide
  have name := takeWhile_until (words f).1
  have call := dropWhile_until (words f).1
  have arguments := dropWhile_until (words f).2
  have pieces := List.splitOn_append_cons_self_of_not_mem h (' ' :: f.arguments.toList ++ [')'])
  rw [toList_declaration, numericInput?]
  rw [inputMark, List.cons_append, name, call, ← List.cons_append, ← inputMark, if_pos (by simp),
    ← List.append_assoc, arguments, List.drop_one, List.tail_cons, pieces]
  simp only [rangeOf?_arguments, Field.input?, String.ofList_toList]

/-- The field that a line declares. -/
def Line.field? : Line → Option Field
  | .fixed _ => none
  | .declare field => some field

theorem field?_template : template.filterMap Line.field? = Field.all := rfl

/-- The numeric inputs among lines of the template are those of the fields that they declare. -/
theorem numericInputs_lines {literal : Field → String} {lines : List Line}
    (known : lines ⊆ template) (one : ∀ f, .declare f ∈ lines → ',' ∉ (literal f).toList) :
    lines.filterMap (fun line => numericInput? (line.text literal).toList) =
      (lines.filterMap Line.field?).filterMap fun f => f.input? (literal f) := by
  rw [List.filterMap_filterMap]
  apply List.filterMap_congr
  intro line member
  cases line with
  | declare f =>
      simp only [Line.text, Line.field?, Option.bind_some,
        numericInput?_declaration f (one f member)]
  | fixed text =>
      simp only [Line.text, Line.field?, Option.bind_none]
      rcases fixed_mem_template (known member) with rfl | ⟨b, hb⟩
      · rfl
      · exact numericInput?_fixedLines b text hb

/-- The numeric inputs of a script are those of its fields. -/
theorem numericInputs_document {literal : Field → String}
    (line : ∀ f, '\n' ∉ (literal f).toList) (one : ∀ f, ',' ∉ (literal f).toList) :
    numericInputs (document literal) = Field.all.filterMap fun f => f.input? (literal f) := by
  rw [numericInputs, linesOf_document line, List.filterMap_map, ← field?_template]
  exact numericInputs_lines (List.Subset.refl template) fun f _ => one f

/-- Whatever the period is, the last numeric inputs of a script are those of the other fields. -/
theorem numericInputs_behindPeriod {literal : Field → String}
    (line : ∀ f, f ≠ .lookback → '\n' ∉ (literal f).toList)
    (one : ∀ f, f ≠ .lookback → ',' ∉ (literal f).toList) : ∃ earlier,
    numericInputs (document literal) =
      earlier ++ Field.all.tail.filterMap fun f => f.input? (literal f) := by
  have fields : behindPeriod.filterMap Line.field? = Field.all.tail := rfl
  obtain ⟨earlier, lines⟩ := linesOf_behindPeriod line
  refine ⟨earlier.filterMap numericInput?, ?_⟩
  rw [numericInputs, lines, List.filterMap_append, List.filterMap_map, ← fields,
    ← numericInputs_lines behindPeriod_subset fun f member => one f (declare_behindPeriod member)]
  rfl

end IndicatorDesigner.Script
