import IndicatorDesigner.Proofs.Acceptance
import Mathlib.Data.List.Forall2

/-!
Which setting each line of a script depends on. The lines of two scripts stand side by side: a line
that declares a field is the same in both exactly if the field is written the same, and every other
line is the same anyway.
-/
namespace IndicatorDesigner.Script

/-- The field that a line declares, by the variable before the mark of an input. -/
def declared? (line : List Char) : Option Field :=
  if inputMark.isPrefixOf (line.dropWhile (· != ' ')) then
    Field.all.find? fun f => f.variableName.toList == line.takeWhile (· != ' ')
  else none

theorem declared?_declaration (f : Field) (literal : String) :
    declared? (f.declaration literal).toList = some f := by
  have word : ∀ f : Field, ' ' ∉ f.variableName.toList := by
    decide
  have known : ∀ f : Field,
      Field.all.find? (fun g => g.variableName.toList == f.variableName.toList) = some f := by
    decide
  have name := takeWhile_until (word f)
  have call := dropWhile_until (word f)
  rw [toList_declaration, declared?]
  rw [inputMark, List.cons_append, name, call, ← List.cons_append, ← inputMark, if_pos (by simp)]
  exact known f

theorem declared?_fixedLines (b : Block) :
    ∀ text ∈ b.fixedLines, declared? text.toList = none := by
  apply forall_fixedLines (p := fun line => declared? line = none)
  decide +kernel

theorem declared?_text (literal : Field → String) {line : Line} (h : line ∈ template) :
    declared? (line.text literal).toList = line.field? := by
  cases line with
  | declare f => exact declared?_declaration f (literal f)
  | fixed text =>
      rcases fixed_mem_template h with rfl | ⟨b, hb⟩
      · rfl
      · exact declared?_fixedLines b text hb

/-- A script declares every field once, in order. -/
theorem declared_document {literal : Field → String} (h : ∀ f, '\n' ∉ (literal f).toList) :
    (linesOf (document literal)).filterMap declared? = Field.all := by
  rw [linesOf_document h, List.filterMap_map, ← field?_template]
  apply List.filterMap_congr
  intro line member
  exact declared?_text literal member

/-- Two settings of which a field is written the same. -/
def Field.Alike (a b : Config) : Field → Prop
  | .lookback => plainText a.lookback = plainText b.lookback
  | .model => a.model.label = b.model.label
  | .bias => numberText a.bias = numberText b.bias
  | .buyThreshold => numberText a.buyThreshold = numberText b.buyThreshold
  | .sellThreshold => numberText a.sellThreshold = numberText b.sellThreshold
  | .markerSize => a.markerSize.label = b.markerSize.label
  | .enabled f => (a.features.get f).truthy = (b.features.get f).truthy
  | .weight f => numberText (a.weights.get f) = numberText (b.weights.get f)

theorem quote_injective {a b : String} (h : quote a = quote b) : a = b := by
  simp only [quote, String.append_assoc, String.append_right_inj] at h
  exact (String.append_left_inj _).mp h

theorem number_eq_iff (v w : Value) : number v = number w ↔ numberText v = numberText w := by
  constructor
  · intro h
    unfold number at h
    cases hv : numberText v <;> cases hw : numberText w <;> simp_all [Except.mapError]
  · exact congrArg (Except.mapError Fault.number)

theorem literal_eq_iff (a b : Config) (f : Field) : f.literal a = f.literal b ↔ f.Alike a b := by
  have label (s t : String) : (Except.ok (quote s) : Except Fault String) = .ok (quote t) ↔ s = t :=
    ⟨fun h => quote_injective (Except.ok.inj h), fun h => by rw [h]⟩
  cases f with
  | lookback => rfl
  | model => exact label _ _
  | markerSize => exact label _ _
  | bias => exact number_eq_iff _ _
  | buyThreshold => exact number_eq_iff _ _
  | sellThreshold => exact number_eq_iff _ _
  | weight f => exact number_eq_iff _ _
  | enabled f =>
      have switch : ∀ p q : Bool,
          (Except.ok (switchText p) : Except Fault String) = .ok (switchText q) ↔ p = q := by
        decide
      exact switch _ _

/-- What two lines at one place of two scripts have in common. -/
def Parallel (a b : Config) (l m : List Char) : Prop :=
  declared? l = declared? m ∧ (declared? l = none → l = m) ∧
    ∀ f, declared? l = some f → (l = m ↔ f.Alike a b)

variable {a b : Config} {p q : Field → String}

theorem alike_iff (hp : ∀ f : Field, f.literal a = .ok (p f))
    (hq : ∀ f : Field, f.literal b = .ok (q f)) (f : Field) : f.Alike a b ↔ p f = q f := by
  rw [← literal_eq_iff, hp, hq, Except.ok.injEq]

theorem parallel_text (hp : ∀ f : Field, f.literal a = .ok (p f))
    (hq : ∀ f : Field, f.literal b = .ok (q f)) {line : Line} (h : line ∈ template) :
    Parallel a b (line.text p).toList (line.text q).toList := by
  have declares := declared?_text p h
  refine ⟨declares.trans (declared?_text q h).symm, ?_, ?_⟩
  · intro none
    cases line with
    | fixed text => rfl
    | declare f =>
        rw [declares] at none
        cases none
  · intro f some
    cases line with
    | fixed text =>
        rw [declares] at some
        cases some
    | declare g =>
        rw [declares] at some
        obtain rfl := Option.some.inj some
        rw [alike_iff hp hq, String.toList_inj]
        exact ⟨declaration_injective g, congrArg g.declaration⟩

theorem declare_mem (f : Field) : Line.declare f ∈ template :=
  List.count_pos_iff.mp (by rw [count_declare f]; decide)

theorem document_injective (hp : ∀ f, '\n' ∉ (p f).toList) (hq : ∀ f, '\n' ∉ (q f).toList)
    (h : document p = document q) (f : Field) : p f = q f := by
  have lines : template.map (fun line => (line.text p).toList) =
      template.map fun line => (line.text q).toList := by
    rw [← linesOf_document hp, h, linesOf_document hq]
  have line := List.map_inj_left.mp lines (.declare f) (declare_mem f)
  exact declaration_injective f (String.toList_inj.mp line)

/-- Two scripts have equally many lines, and declare the fields on the same ones. Line by line they
are the same where no field is declared; a line that declares a field is the same in both exactly if
the field is written the same. So the scripts are equal exactly if all fields are written the
same. -/
theorem generate_line_by_line {s t : String} (ha : a.lookback.IsNumber) (hb : b.lookback.IsNumber)
    (hs : generate a = .ok s) (ht : generate b = .ok t) :
    (linesOf s).length = (linesOf t).length ∧
      (linesOf s).filterMap declared? = Field.all ∧
      List.Forall₂ (Parallel a b) (linesOf s) (linesOf t) ∧
      (s = t ↔ ∀ f : Field, f.Alike a b) := by
  obtain ⟨p, hp, rfl⟩ := literals_of_generate hs
  obtain ⟨q, hq, rfl⟩ := literals_of_generate ht
  have lineP : ∀ f, '\n' ∉ (p f).toList := fun f => (inline_literal ha (hp f)).newline
  have lineQ : ∀ f, '\n' ∉ (q f).toList := fun f => (inline_literal hb (hq f)).newline
  have parallel : List.Forall₂ (Parallel a b) (linesOf (document p)) (linesOf (document q)) := by
    rw [linesOf_document lineP, linesOf_document lineQ, List.forall₂_map_left_iff,
      List.forall₂_map_right_iff, List.forall₂_same]
    intro line member
    exact parallel_text hp hq member
  refine ⟨parallel.length_eq, declared_document lineP, parallel, ?_⟩
  constructor
  · intro h f
    rw [alike_iff hp hq]
    exact document_injective lineP lineQ h f
  · intro h
    rw [show p = q from funext fun f => (alike_iff hp hq f).mp (h f)]

/-- Another model changes the line of the model only. -/
theorem model_changes_one_line :
    let a : Config := .standard
    let b : Config := { a with model := .linearSvm }
    ∃ s t, a.lookback.IsNumber ∧ b.lookback.IsNumber ∧ generate a = .ok s ∧ generate b = .ok t ∧
      (linesOf s).length = (linesOf t).length ∧
      (linesOf s).filterMap declared? = Field.all ∧
      List.Forall₂ (Parallel a b) (linesOf s) (linesOf t) ∧
      (s = t ↔ ∀ f : Field, f.Alike a b) ∧ ∀ f : Field, f.Alike a b ↔ f ≠ .model := by
  intro a b
  have first : Request.ofValue (.object []) = .ok
      { lookback := Defaults.lookback, buyThreshold := Defaults.buyThreshold,
        sellThreshold := Defaults.sellThreshold, features := [], weights := [],
        bias := Defaults.bias, model := Defaults.model, markerSize := Defaults.markerSize } := rfl
  have second : Request.ofValue (.object [("model", .text "SVM (Linear Kernel)")]) = .ok
      { lookback := Defaults.lookback, buyThreshold := Defaults.buyThreshold,
        sellThreshold := Defaults.sellThreshold, features := [], weights := [],
        bias := Defaults.bias, model := .linearSvm, markerSize := Defaults.markerSize } := rfl
  obtain ⟨s, hs, _⟩ := generate_inRange (Request.inRange first)
  obtain ⟨t, ht, _⟩ := generate_inRange (Request.inRange second)
  obtain ⟨length, fields, lines, equal⟩ :=
    @generate_line_by_line a b s t trivial trivial hs ht
  refine ⟨s, t, trivial, trivial, hs, ht, length, fields, lines, equal, ?_⟩
  intro f
  cases f with
  | model => simp [Field.Alike, a, b, Config.standard, Defaults.model, Model.label]
  | _ => simp [Field.Alike, b]

end IndicatorDesigner.Script
