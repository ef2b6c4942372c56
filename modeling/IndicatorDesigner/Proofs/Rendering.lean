import IndicatorDesigner.Proofs.Outcome
import IndicatorDesigner.Proofs.Sameness
import IndicatorDesigner.Script.Document
import Mathlib.Data.List.Basic

/-!
What a script depends on. Settings enter it through the literals of the fourteen fields only, and a
number enters by its exact value, so settings that are equal have the same script as long as the
period is written the same.
-/
namespace IndicatorDesigner.Script

theorem numberText_of_exact {s : Scalar} {r : Rat} (h : s.amount? = some (.exact r)) :
    numberText (.scalar s) = Decimal.ofRat r := by
  cases s with
  | null => simp [Scalar.amount?] at h
  | bool b =>
      simp only [Scalar.amount?, Option.some.injEq, Amount.exact.injEq] at h
      simp [numberText, h]
  | int n =>
      simp only [Scalar.amount?, Option.some.injEq, Amount.exact.injEq] at h
      simp [numberText, h]
  | float x =>
      cases x with
      | finite negative m e canonical =>
          simp only [Scalar.amount?, Option.map_eq_some_iff, Amount.exact.injEq] at h
          obtain ⟨r', hr, rfl⟩ := h
          simp [numberText, hr]
      | infinite negative => simp [Scalar.amount?] at h
      | nan => simp [Scalar.amount?, Binary64.toRat?] at h
  | text t => simp [Scalar.amount?] at h

theorem numberText_of_infinite {s : Scalar} {negative : Bool}
    (h : s.amount? = some (.infinite negative)) :
    numberText (.scalar s) = .error .noTwoPlaces := by
  cases s with
  | null => simp [Scalar.amount?] at h
  | bool b => simp [Scalar.amount?] at h
  | int n => simp [Scalar.amount?] at h
  | float x =>
      cases x with
      | finite negative m e canonical => simp [Scalar.amount?] at h
      | infinite negative => rfl
      | nan => simp [Scalar.amount?, Binary64.toRat?] at h
  | text t => simp [Scalar.amount?] at h

/-- Whole numbers, switches and binary64 numbers of one exact value are written alike. -/
theorem numberText_congr {a b : Value} (ha : a.IsScalar) (h : a.same b = true) :
    numberText a = numberText b := by
  obtain ⟨t, rfl⟩ := ha.of_same h
  obtain ⟨s, rfl⟩ := ha
  rw [Value.same_scalar, Scalar.same_iff] at h
  obtain ⟨rfl, rfl⟩ | ⟨s, rfl, rfl⟩ | ⟨x, hs, ht⟩ := h
  · rfl
  · rfl
  · cases x with
    | exact r => rw [numberText_of_exact hs, numberText_of_exact ht]
    | infinite negative => rw [numberText_of_infinite hs, numberText_of_infinite ht]

/-- Settings under one key have the same literals, apart from the one of the period. -/
theorem literal_congr {a b : Config} (ha : a.key.Hashable) (h : (a.key == b.key) = true)
    {f : Field} (hf : f ≠ .lookback) : f.literal a = f.literal b := by
  simp only [Config.Key.beq_eq_same, Config.Key.same, Bool.and_eq_true, beq_iff_eq,
    Config.sameMap_iff] at h
  obtain ⟨⟨⟨⟨⟨⟨⟨_, buy⟩, sell⟩, switches⟩, weights⟩, bias⟩, model⟩, size⟩ := h
  cases f with
  | lookback => exact absurd rfl hf
  | model => exact congrArg (fun m : Model => Except.ok (quote m.label)) model
  | bias => exact congrArg (Except.mapError Fault.number) (numberText_congr ha.bias bias)
  | buyThreshold =>
      exact congrArg (Except.mapError Fault.number) (numberText_congr ha.buyThreshold buy)
  | sellThreshold =>
      exact congrArg (Except.mapError Fault.number) (numberText_congr ha.sellThreshold sell)
  | markerSize => exact congrArg (fun m : MarkerSize => Except.ok (quote m.label)) size
  | enabled f =>
      have on : (a.features.get f).truthy = (b.features.get f).truthy := by
        have := congrArg (fun p => PerFeature.get p f) switches
        simpa only [Config.key, Config.switches, PerFeature.get_map] using this
      simp only [Field.literal, on]
  | weight f =>
      exact congrArg (Except.mapError Fault.number) (numberText_congr (ha.weight f) (weights f))

theorem render_congr {a b : Config} (h : ∀ f : Field, f.literal a = f.literal b) :
    Line.render a = Line.render b := by
  funext line
  cases line with
  | fixed text => rfl
  | declare field => simp only [Line.render, h]

theorem generate_congr {a b : Config} (h : ∀ f : Field, f.literal a = f.literal b) :
    generate a = generate b := by
  have blocks : Block.render a = Block.render b := by
    funext block
    simp only [Block.render, Block.lines, render_congr h]
  simp only [generate, blockTexts, blocks]

/-- Settings under one key have the same script, or the same fault, if their periods are written
the same. -/
theorem generate_congr_of_beq {a b : Config} (ha : a.key.Hashable) (h : (a.key == b.key) = true)
    (period : plainText a.lookback = plainText b.lookback) : generate a = generate b := by
  apply generate_congr
  intro f
  by_cases hf : f = .lookback
  · subst hf
    exact period
  · exact literal_congr ha h hf

/-- The text of a line when the literals of the fields are known. -/
def Line.text (literal : Field → String) : Line → String
  | .fixed text => text
  | .declare field => field.declaration (literal field)

/-- The lines of a whole script: an empty one between two blocks and one behind the last newline. -/
def template : List Line :=
  [Line.fixed ""].intercalate (Block.all.map Block.template) ++ [Line.fixed ""]

/-- A script with the given literals. -/
def document (literal : Field → String) : String :=
  "\n".intercalate (template.map (Line.text literal))

theorem intercalate_blocks (block : List String) (blocks : List (List String))
    (h : ∀ b ∈ block :: blocks, b ≠ []) :
    "\n\n".intercalate ((block :: blocks).map ("\n".intercalate)) ++ "\n" =
      "\n".intercalate ([""].intercalate (block :: blocks) ++ [""]) := by
  induction blocks generalizing block with
  | nil =>
      rw [List.intercalate_singleton,
        String.intercalate_append_of_ne_nil (h block (by simp)) (by simp)]
      simp
  | cons next rest ih =>
      have hblock := h block (by simp)
      have ih := ih next fun b hb => h b (List.mem_cons_of_mem block hb)
      rw [List.intercalate_cons_cons, List.append_assoc, List.append_assoc,
        String.intercalate_append_of_ne_nil hblock (by simp),
        String.intercalate_append_of_ne_nil (by simp) (by simp), ← ih]
      simp only [List.map_cons, String.intercalate_cons_cons, String.intercalate_singleton,
        ← String.append_assoc]
      simp [String.append_assoc]

theorem block_template_ne_nil (b : Block) : b.template ≠ [] := by
  cases b <;> simp [Block.template, Block.fixedLines, Block.linkLines, Block.formulaLines,
    Feature.all, Model.all, alerts]

theorem render_of_literals {c : Config} {literal : Field → String}
    (h : ∀ f : Field, f.literal c = .ok (literal f)) (line : Line) :
    line.render c = .ok (line.text literal) := by
  cases line with
  | fixed text => rfl
  | declare field => simp only [Line.render, Line.text, h]; rfl

/-- When every literal can be written, the script is the template with the literals filled in. -/
theorem generate_of_literals {c : Config} {literal : Field → String}
    (h : ∀ f : Field, f.literal c = .ok (literal f)) : generate c = .ok (document literal) := by
  have lines (b : Block) : b.lines c = .ok (b.template.map (Line.text literal)) := by
    rw [Block.lines, show Line.render c = fun l => pure (l.text literal) from
      funext (render_of_literals h), List.mapM_pure]
    rfl
  have texts : blockTexts c =
      .ok (Block.all.map fun b => "\n".intercalate (b.template.map (Line.text literal))) := by
    rw [blockTexts, show Block.render c = fun b =>
      pure ("\n".intercalate (b.template.map (Line.text literal))) from
        funext fun b => by rw [Block.render, lines]; rfl, List.mapM_pure]
    rfl
  have whole := intercalate_blocks (Block.header.template.map (Line.text literal))
    (Block.all.tail.map fun b => b.template.map (Line.text literal)) (by
      intro texts member
      obtain ⟨b, _, rfl⟩ := List.mem_map.mp
        (show texts ∈ Block.all.map fun b => b.template.map (Line.text literal) from member)
      simpa using block_template_ne_nil b)
  rw [generate, texts]
  refine congrArg Except.ok (Eq.trans ?_ (whole.trans ?_))
  · rfl
  · rfl

theorem Block.mem_all (b : Block) : b ∈ Block.all := by
  cases b <;> decide

instance {p : Block → Prop} [DecidablePred p] : Decidable (∀ b, p b) :=
  decidable_of_iff (∀ b ∈ Block.all, p b) ⟨fun h b => h b b.mem_all, fun h b _ => h b⟩

/-- The fields in the order in which a script declares them. -/
def Field.all : List Field :=
  [.lookback, .model, .bias, .buyThreshold, .sellThreshold, .markerSize] ++
    Feature.all.map .enabled ++ Feature.all.map .weight

theorem Field.mem_all (f : Field) : f ∈ Field.all := by
  cases f with
  | enabled f => cases f <;> decide
  | weight f => cases f <;> decide
  | _ => decide

instance {p : Field → Prop} [DecidablePred p] : Decidable (∀ f, p f) :=
  decidable_of_iff (∀ f ∈ Field.all, p f) ⟨fun h f => h f f.mem_all, fun h f _ => h f⟩

/-- The block in which a field is declared. -/
def Field.block : Field → Block
  | .lookback => .modelControls
  | .model => .modelControls
  | .bias => .modelControls
  | .buyThreshold => .thresholds
  | .sellThreshold => .thresholds
  | .markerSize => .markerSize
  | .enabled _ => .featureToggles
  | .weight _ => .featureWeights

theorem declare_mem_template : ∀ f : Field, Line.declare f ∈ f.block.template := by
  decide

/-- A script is there only when every literal can be written. -/
theorem literals_of_generate {c : Config} {script : String} (h : generate c = .ok script) :
    ∃ literal : Field → String, (∀ f : Field, f.literal c = .ok (literal f)) ∧
      script = document literal := by
  have each (f : Field) : ∃ text, f.literal c = .ok text := by
    obtain ⟨texts, ht, _⟩ := ok_of_bind h
    obtain ⟨text, hb⟩ := ok_of_mapM ht (Block.mem_all f.block)
    obtain ⟨lines, hl, _⟩ := ok_of_bind hb
    obtain ⟨line, hd⟩ := ok_of_mapM hl (declare_mem_template f)
    obtain ⟨literal, hf, _⟩ := ok_of_bind hd
    exact ⟨literal, hf⟩
  choose literal hl using each
  refine ⟨literal, hl, ?_⟩
  rw [generate_of_literals hl, Except.ok.injEq] at h
  exact h.symm

/-- The fault of settings without a script is the fault of a literal. -/
theorem fault_of_generate {c : Config} {fault : Fault} (h : generate c = .error fault) :
    ∃ f : Field, f.literal c = .error fault := by
  rcases error_of_bind h with texts | ⟨_, _, done⟩
  · obtain ⟨b, _, block⟩ := error_of_mapM texts
    rcases error_of_bind block with lines | ⟨_, _, done⟩
    · obtain ⟨line, _, rendered⟩ := error_of_mapM lines
      cases line with
      | fixed text => cases rendered
      | declare f =>
          rcases error_of_bind rendered with literal | ⟨_, _, done⟩
          · exact ⟨f, literal⟩
          · cases done
    · cases done
  · cases done

theorem intercalate_cancel (mark a b : String) (front back : List String)
    (h : mark.intercalate (front ++ a :: back) = mark.intercalate (front ++ b :: back)) :
    a = b := by
  induction front with
  | nil =>
      cases back with
      | nil => simpa using h
      | cons x rest =>
          simp only [List.nil_append, String.intercalate_cons_cons, String.append_assoc] at h
          exact (String.append_left_inj _).mp h
  | cons x rest ih =>
      rw [List.cons_append, List.cons_append, String.intercalate_cons_of_ne_nil (by simp),
        String.intercalate_cons_of_ne_nil (by simp), String.append_right_inj] at h
      exact ih h

theorem declaration_injective (f : Field) {a b : String}
    (h : f.declaration a = f.declaration b) : a = b := by
  simp only [Field.declaration, String.append_assoc, String.append_right_inj] at h
  exact (String.append_left_inj _).mp h

theorem count_declare : ∀ f : Field, template.count (.declare f) = 1 := by
  decide

/-- A field is declared on one line only, so two scripts that agree on all other literals are
different if this one is. -/
theorem literal_eq_of_document_eq {a b : Field → String} {f : Field}
    (others : ∀ g, g ≠ f → a g = b g) (h : document a = document b) : a f = b f := by
  have once := count_declare f
  obtain ⟨front, back, parts⟩ := List.append_of_mem
    (List.count_pos_iff.mp (by omega : 0 < template.count (.declare f)))
  rw [parts, List.count_append, List.count_cons_self] at once
  -- The lines around the only declaration of `f` are the same in both scripts.
  have absent {lines : List Line} (none : lines.count (.declare f) = 0) :
      lines.map (Line.text a) = lines.map (Line.text b) := by
    apply List.map_congr_left
    intro line member
    cases line with
    | fixed text => rfl
    | declare g =>
        have different : g ≠ f := by
          rintro rfl
          exact List.count_eq_zero.mp none member
        simp only [Line.text, others g different]
  rw [document, document, parts, List.map_append, List.map_append, List.map_cons, List.map_cons,
    absent (by omega : front.count (.declare f) = 0),
    absent (by omega : back.count (.declare f) = 0)] at h
  exact declaration_injective f (intercalate_cancel _ _ _ _ _ h)

end IndicatorDesigner.Script
