import IndicatorDesigner.Proofs.Rendering

/-!
The lines of a script. The fixed lines are spelled out once, so that what is decided about them is
decided on characters. None of them holds a newline, and a script read line by line gives back its
template whenever the literals keep to one line.
-/
namespace IndicatorDesigner.Script

/-- The texts have the characters that are listed for them. -/
def Spells (texts : List String) (spelled : List (List Char)) : Prop :=
  texts.map String.toList = spelled

namespace Spells

variable {a b : String} {p q : List Char}

theorem nil : Spells [] [] := rfl

theorem cons {texts : List String} {spelled : List (List Char)} (h : a.toList = p)
    (rest : Spells texts spelled) : Spells (a :: texts) (p :: spelled) := by
  rw [Spells, List.map_cons, h, rest]

theorem concat {texts more : List String} {spelled rest : List (List Char)}
    (h : Spells texts spelled) (hm : Spells more rest) :
    Spells (texts ++ more) (spelled ++ rest) := by
  rw [Spells, List.map_append, h, hm]

theorem literal {l : List Char} : (String.ofList l).toList = l := String.toList_ofList

theorem append (ha : a.toList = p) (hb : b.toList = q) : (a ++ b).toList = p ++ q := by
  rw [String.toList_append, ha, hb]

theorem quoted (h : a.toList = p) : (quote a).toList = '\'' :: p ++ ['\''] :=
  append (append (p := ['\'']) rfl h) rfl

theorem intercalate {mark : String} {texts : List String} {spelled : List (List Char)}
    (hm : mark.toList = p) (h : Spells texts spelled) :
    (mark.intercalate texts).toList = p.intercalate spelled := by
  rw [String.toList_intercalate, hm, h]

theorem numeral (n : Nat) : (toString n).toList = Nat.toDigits 10 n := by
  rw [Nat.toString_eq_repr, Nat.toList_repr]

end Spells

open Spells (literal append quoted intercalate numeral)

def spelledScoreLine : (f : Feature) → { p : List Char // (Block.scoreLine f).toList = p }
  | .rsi => ⟨_, append (append (append (append (append (append literal (append literal literal))
      literal) (append literal literal)) literal) literal) literal⟩
  | .macd => ⟨_, append (append (append (append (append (append literal (append literal literal))
      literal) (append literal literal)) literal) literal) literal⟩
  | .volume => ⟨_, append (append (append (append (append (append literal (append literal literal))
      literal) (append literal literal)) literal) literal) literal⟩
  | .price => ⟨_, append (append (append (append (append (append literal (append literal literal))
      literal) (append literal literal)) literal) literal) literal⟩

set_option maxRecDepth 2000 in
/-- The characters of the fixed lines of a block. -/
def spelledLines : (b : Block) → { spelled : List (List Char) // Spells b.fixedLines spelled }
  | .header => ⟨_, .cons (append literal (numeral _)) (.cons
      (append (append (append (append (append (append literal (quoted literal)) literal)
        (numeral _)) literal) (numeral _)) literal) .nil)⟩
  | .modelControls => ⟨_, .cons literal .nil⟩
  | .thresholds => ⟨_, .nil⟩
  | .markerSize => ⟨_, .cons (append literal (append (append (append (append (append literal
      (quoted literal)) literal) literal) literal) (append (append (append (append (append literal
      (quoted literal)) literal) literal) literal) literal))) .nil⟩
  | .featureToggles => ⟨_, .nil⟩
  | .featureWeights => ⟨_, .nil⟩
  | .featureEngineering => ⟨_, .cons literal (.cons literal (.cons literal (.cons literal
      (.cons literal (.cons (append literal literal) (.cons literal (.cons literal (.cons literal
      (.cons literal (.cons literal (.cons literal .nil)))))))))))⟩
  | .scoreAccumulation => ⟨_, .cons literal (.cons (spelledScoreLine .rsi).2
      (.cons (spelledScoreLine .macd).2 (.cons (spelledScoreLine .volume).2
      (.cons (spelledScoreLine .price).2 .nil))))⟩
  | .nonlinearity => ⟨_, .cons literal (.cons (append literal (quoted literal))
      (.cons (append literal literal) (.cons literal (.cons (append literal literal) .nil))))⟩
  | .clamp => ⟨_, .cons literal .nil⟩
  | .signals => ⟨_, .cons (append literal literal) (.cons (append literal literal) .nil)⟩
  | .plots => ⟨_, .cons literal (.cons (append literal literal)
      (.cons (append literal literal) .nil))⟩
  | .markers => ⟨_, .cons (append literal literal) (.cons (append literal literal) .nil)⟩
  | .alerts => ⟨_, .cons
      (append (append (append (append (append (append literal literal) literal) (quoted literal))
        literal) (quoted literal)) literal) (.cons
      (append (append (append (append (append (append literal literal) literal) (quoted literal))
        literal) (quoted literal)) literal) .nil)⟩
  | .statusTable => ⟨_, .cons literal (.cons (append (append literal (numeral _)) literal)
      (.cons literal
      (.cons (append (append (append (append (append (append literal (numeral _)) literal)
        (quoted literal)) literal) literal) literal)
      (.cons (append (append (append (append (append (append literal (numeral _)) literal)
        (quoted literal)) literal) literal) literal)
      (.cons (append (append (append (append (append (append literal (numeral _)) literal)
        (quoted literal)) literal) literal) literal)
      (.cons (append (append (append (append (append (append literal (numeral _)) literal)
        (quoted literal)) literal) literal) literal) .nil))))))⟩

/-- What is decided on the spelled lines holds of the fixed lines. -/
theorem forall_fixedLines {p : List Char → Prop}
    (h : ∀ b : Block, ∀ line ∈ (spelledLines b).1, p line) (b : Block) :
    ∀ text ∈ b.fixedLines, p text.toList := by
  intro text member
  apply h b
  rw [← (spelledLines b).2]
  exact List.mem_map_of_mem member

theorem newline_fixedLines (b : Block) : ∀ text ∈ b.fixedLines, '\n' ∉ text.toList := by
  apply forall_fixedLines (p := fun line => '\n' ∉ line)
  decide +kernel

theorem spelledRange {b : Bounds Scalar} {p q : List Char} (least : b.least.quoted.toList = p)
    (greatest : b.greatest.quoted.toList = q) :
    b.rangeText.toList = ['m', 'i', 'n', 'v', 'a', 'l', '='] ++ p ++
      [',', ' ', 'm', 'a', 'x', 'v', 'a', 'l', '='] ++ q :=
  append (append (append literal least) literal) greatest

theorem spelledStep {b : Bounds Scalar} {p : List Char} (step : b.step.quoted.toList = p) :
    b.stepText.toList = ['s', 't', 'e', 'p', '='] ++ p :=
  append literal step

def spelledLimits : (f : Field) → { spelled : List (List Char) // Spells f.limits spelled }
  | .lookback => ⟨_, .cons (append (append (spelledRange (p := ['5', '0']) (q := ['2', '0', '0'])
      (by decide) (by decide)) literal) (spelledStep (p := ['1']) (by decide))) .nil⟩
  | .model => ⟨_, .cons (append literal (append (append literal (intercalate literal
      (.cons (quoted literal) (.cons (quoted literal) .nil)))) literal)) .nil⟩
  | .bias => ⟨_, .cons (append (append (spelledStep (p := ['0', '.', '0', '5']) (by decide))
      literal) (spelledRange (p := ['-', '1', '0', '.', '0']) (q := ['1', '0', '.', '0'])
        (by decide) (by decide))) .nil⟩
  | .buyThreshold => ⟨_, .cons (append (append (spelledRange (p := ['0', '.', '5'])
      (q := ['0', '.', '9']) (by decide) (by decide)) literal)
      (spelledStep (p := ['0', '.', '0', '1']) (by decide))) .nil⟩
  | .sellThreshold => ⟨_, .cons (append (append (spelledRange (p := ['0', '.', '1'])
      (q := ['0', '.', '5']) (by decide) (by decide)) literal)
      (spelledStep (p := ['0', '.', '0', '1']) (by decide))) .nil⟩
  | .markerSize => ⟨_, .cons (append literal (append (append literal (intercalate literal
      (.cons (quoted literal) (.cons (quoted literal) (.cons (quoted literal) .nil))))) literal))
      .nil⟩
  | .enabled _ => ⟨_, .nil⟩
  | .weight _ => ⟨_, .cons (append (append (spelledRange (p := ['-', '5', '.', '0'])
      (q := ['5', '.', '0']) (by decide) (by decide)) literal)
      (spelledStep (p := ['0', '.', '0', '5']) (by decide))) .nil⟩

def spelledCaption : (f : Field) → { p : List Char // f.caption.toList = p }
  | .lookback => ⟨_, literal⟩
  | .model => ⟨_, literal⟩
  | .bias => ⟨_, literal⟩
  | .buyThreshold => ⟨_, literal⟩
  | .sellThreshold => ⟨_, literal⟩
  | .markerSize => ⟨_, literal⟩
  | .enabled .rsi => ⟨_, literal⟩
  | .enabled .macd => ⟨_, literal⟩
  | .enabled .volume => ⟨_, literal⟩
  | .enabled .price => ⟨_, literal⟩
  | .weight .rsi => ⟨_, literal⟩
  | .weight .macd => ⟨_, literal⟩
  | .weight .volume => ⟨_, literal⟩
  | .weight .price => ⟨_, literal⟩

def spelledGroup : (f : Field) → { p : List Char // f.group.toList = p }
  | .lookback => ⟨_, literal⟩
  | .model => ⟨_, literal⟩
  | .bias => ⟨_, literal⟩
  | .buyThreshold => ⟨_, literal⟩
  | .sellThreshold => ⟨_, literal⟩
  | .markerSize => ⟨_, literal⟩
  | .enabled _ => ⟨_, literal⟩
  | .weight _ => ⟨_, literal⟩

/-- The characters of what follows the value in the declaration of a field. -/
def spelledArguments (f : Field) : { p : List Char // f.arguments.toList = p } :=
  ⟨_, intercalate literal (.cons (quoted (spelledCaption f).2) (.concat (spelledLimits f).2
    (.cons (append literal (quoted (spelledGroup f).2)) .nil)))⟩

theorem newline_arguments (f : Field) : '\n' ∉ f.arguments.toList := by
  have none : ∀ f : Field, '\n' ∉ (spelledArguments f).1 := by
    decide +kernel
  rw [(spelledArguments f).2]
  exact none f

theorem newline_declaration (f : Field) {literal : String} (h : '\n' ∉ literal.toList) :
    '\n' ∉ (f.declaration literal).toList := by
  have words : ∀ f : Field, '\n' ∉ f.variableName.toList ∧ '\n' ∉ f.inputKind.toList := by
    decide
  have marks : '\n' ∉ " = input.".toList ∧ '\n' ∉ "(".toList ∧ '\n' ∉ ", ".toList ∧
      '\n' ∉ ")".toList := by decide
  simp only [Field.declaration, String.toList_append, List.mem_append, not_or]
  exact ⟨⟨⟨⟨⟨⟨⟨(words f).1, marks.1⟩, (words f).2⟩, marks.2.1⟩, h⟩, marks.2.2.1⟩,
    newline_arguments f⟩, marks.2.2.2⟩

/-- The lines of a script, each without its newline. -/
def linesOf (script : String) : List (List Char) := script.toList.splitOn '\n'

theorem linesOf_intercalate {lines : List String} (h : ∀ line ∈ lines, '\n' ∉ line.toList)
    (hne : lines ≠ []) : linesOf ("\n".intercalate lines) = lines.map String.toList := by
  have mark : "\n".toList = ['\n'] := rfl
  rw [linesOf, String.toList_intercalate, mark]
  refine List.splitOn_intercalate '\n' ?_ ?_
  · intro line member
    obtain ⟨text, hm, rfl⟩ := List.mem_map.mp member
    exact h text hm
  · simpa using hne

theorem mem_intercalate {α : Type} {mark a : α} {parts : List (List α)}
    (h : a ∈ [mark].intercalate parts) : a = mark ∨ ∃ part ∈ parts, a ∈ part := by
  induction parts with
  | nil => simp at h
  | cons part rest ih =>
      cases rest with
      | nil => exact .inr ⟨part, List.mem_cons_self, by simpa using h⟩
      | cons next rest =>
          rw [List.intercalate_cons_cons, List.append_assoc, List.mem_append,
            List.mem_append, List.mem_singleton] at h
          rcases h with h | h | h
          · exact .inr ⟨part, List.mem_cons_self, h⟩
          · exact .inl h
          · exact (ih h).imp_right fun ⟨p, hp, ha⟩ => ⟨p, List.mem_cons_of_mem part hp, ha⟩

/-- A fixed line is empty or one of the fixed lines of a block. -/
theorem fixed_mem_template {text : String} (h : Line.fixed text ∈ template) :
    text = "" ∨ ∃ b : Block, text ∈ b.fixedLines := by
  rw [template, List.mem_append, List.mem_singleton] at h
  rcases h with h | h
  · rcases mem_intercalate h with h | ⟨lines, hl, h⟩
    · exact .inl (Line.fixed.inj h)
    · obtain ⟨b, _, rfl⟩ := List.mem_map.mp hl
      have fixedOnly : Line.fixed text ∈ b.template → text ∈ b.fixedLines := by
        cases b <;> simp [Block.template, Feature.all]
      exact .inr ⟨b, fixedOnly h⟩
  · exact .inl (Line.fixed.inj h)

/-- Lines of the template stay apart if the literals that they declare keep to one line. -/
theorem linesOf_lines {literal : Field → String} {lines : List Line} (known : lines ⊆ template)
    (hne : lines ≠ []) (h : ∀ f, .declare f ∈ lines → '\n' ∉ (literal f).toList) :
    linesOf ("\n".intercalate (lines.map (Line.text literal))) =
      lines.map fun line => (line.text literal).toList := by
  have each : ∀ text ∈ lines.map (Line.text literal), '\n' ∉ text.toList := by
    intro text member
    obtain ⟨line, hl, rfl⟩ := List.mem_map.mp member
    cases line with
    | declare f => exact newline_declaration f (h f hl)
    | fixed text =>
        rcases fixed_mem_template (known hl) with rfl | ⟨b, hb⟩
        · exact List.not_mem_nil
        · exact newline_fixedLines b text hb
  rw [linesOf_intercalate each (by simpa using hne), List.map_map]
  rfl

/-- A script whose literals keep to one line has the lines of the template. -/
theorem linesOf_document {literal : Field → String} (h : ∀ f, '\n' ∉ (literal f).toList) :
    linesOf (document literal) = template.map fun line => (line.text literal).toList :=
  linesOf_lines (List.Subset.refl template) (by simp [template]) fun f _ => h f

/-- The lines of the template up to the declaration of the period. -/
def upToPeriod : List Line :=
  Block.header.template ++ .fixed "" :: (Block.fixedLines .modelControls).map .fixed ++
    [.declare .lookback]

/-- The lines of the template behind the declaration of the period. -/
def behindPeriod : List Line := template.drop upToPeriod.length

theorem template_parts : template = upToPeriod ++ behindPeriod := rfl

theorem behindPeriod_subset : behindPeriod ⊆ template := List.drop_subset _ _

theorem declare_behindPeriod {f : Field} (h : .declare f ∈ behindPeriod) : f ≠ .lookback := by
  have once : .declare .lookback ∉ behindPeriod := by
    decide
  rintro rfl
  exact once h

/-- A period that is no number may hold newlines. Whatever it makes of the lines before, the lines
behind its declaration are those of the template. -/
theorem linesOf_behindPeriod {literal : Field → String}
    (h : ∀ f, f ≠ .lookback → '\n' ∉ (literal f).toList) : ∃ earlier,
    linesOf (document literal) =
      earlier ++ behindPeriod.map fun line => (line.text literal).toList := by
  have mark : "\n".toList = ['\n'] := rfl
  have behind : linesOf ("\n".intercalate (behindPeriod.map (Line.text literal))) = _ :=
    linesOf_lines behindPeriod_subset (by decide) fun f member => h f (declare_behindPeriod member)
  refine ⟨linesOf ("\n".intercalate (upToPeriod.map (Line.text literal))), ?_⟩
  rw [← behind, document, template_parts, List.map_append,
    String.intercalate_append_of_ne_nil (by simp [upToPeriod])
      (mt List.map_eq_nil_iff.mp (by decide)), linesOf, linesOf, linesOf,
    String.toList_append, String.toList_append, mark, List.append_assoc, List.singleton_append,
    List.splitOn_append_cons_self]

theorem filterMap_intercalate {α β : Type} {mark : List α} {f : α → Option β}
    (h : mark.filterMap f = []) (parts : List (List α)) :
    (mark.intercalate parts).filterMap f = parts.flatMap (List.filterMap f) := by
  induction parts with
  | nil => rfl
  | cons part rest ih =>
      cases rest with
      | nil => simp
      | cons next rest =>
          rw [List.intercalate_cons_cons, List.filterMap_append, List.filterMap_append, h,
            List.append_nil, ih, ← List.flatMap_cons]

/-- The text of a fixed line. -/
def Line.fixed? : Line → Option String
  | .fixed text => some text
  | .declare _ => none

/-- What is read from the lines of a script is read from its blocks in turn, as long as an empty
line says nothing. -/
theorem filterMap_document {α : Type} {read : List Char → Option α} {literal : Field → String}
    (line : ∀ f, '\n' ∉ (literal f).toList) (blank : read [] = none) :
    (linesOf (document literal)).filterMap read =
      Block.all.flatMap fun b => b.template.filterMap fun l => read (l.text literal).toList := by
  have empty : [Line.fixed ""].filterMap (fun l => read (l.text literal).toList) = [] := by
    rw [List.filterMap_cons_none, List.filterMap_nil]
    exact blank
  rw [linesOf_document line, List.filterMap_map]
  change template.filterMap (fun l => read (l.text literal).toList) = _
  rw [template, List.filterMap_append, filterMap_intercalate empty, empty, List.append_nil,
    List.flatMap_map]

end IndicatorDesigner.Script
