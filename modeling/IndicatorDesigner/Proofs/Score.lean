import IndicatorDesigner.Proofs.Inputs
import IndicatorDesigner.Proofs.Literals

/-!
The linear score that a script computes. Its lines are read as statements and executed in order on a
memory of named items, where the normalized series may hold any numbers. No statement reads a name
that is not bound yet, and the score is the bias plus the weighted series of the features that are
switched on, all with two places.
-/
namespace IndicatorDesigner

/-- The exact value of a whole number, a switch or a finite number. -/
def Value.rational? : Value → Option Rat
  | .scalar s =>
    match s.amount? with
    | some (.exact r) => some r
    | _ => none
  | _ => none

namespace Script

/-- What a variable of a script holds. -/
inductive Item where
  | switch (on : Bool)
  | number (q : Rat)
  deriving DecidableEq

/-- What a line does to the variables, as far as the linear score goes. -/
inductive Statement where
  | bind (name : List Char) (item : Item)
  | series (f : Feature)
  | addIf (target switch weight series : List Char)
  | sum (target left right : List Char)
  deriving DecidableEq

/-- The item that the default of an input is. Texts have none. -/
def inputItem? (kind literal : List Char) : Option Item :=
  if kind = ['b', 'o', 'o', 'l'] then
    if literal = ['t', 'r', 'u', 'e'] then some (.switch true)
    else if literal = ['f', 'a', 'l', 's', 'e'] then some (.switch false)
    else none
  else if kind = ['f', 'l', 'o', 'a', 't'] then (Numeral.rational? literal).map .number
  else none

/-- The statement that words make: a gated term, a sum, a constant, or a formula of a series. -/
def ofWords? : List (List Char) → Option Statement
  | [target, ['+', '='], switch, ['?'], weight, ['*'], series, [':'], ['0', '.', '0']] =>
    some (.addIf target switch weight series)
  | [target, ['='], left, ['+'], right] => some (.sum target left right)
  | [target, ['='], value] => (Numeral.rational? value).map fun q => .bind target (.number q)
  | target :: ['='] :: _ => (Feature.all.find? fun f => f.series.toList == target).map .series
  | _ => none

/-- The statement that a line is. An input binds its variable to its default. -/
def statement? (line : List Char) : Option Statement :=
  let name := line.takeWhile (· != ' ')
  let call := line.dropWhile (· != ' ')
  if inputMark.isPrefixOf call then
    let kind := (call.drop inputMark.length).takeWhile (· != '(')
    let literal := ((call.dropWhile (· != '(')).drop 1).takeWhile (· != ',')
    (inputItem? kind literal).map (.bind name)
  else ofWords? (line.splitOn ' ')

def statements (script : String) : List Statement := (linesOf script).filterMap statement?

/-- The items of the variables that are bound. -/
abbrev Memory := List Char → Option Item

namespace Memory

def set (m : Memory) (name : List Char) (item : Item) : Memory :=
  fun other => if other = name then some item else m other

def number? (m : Memory) (name : List Char) : Option Rat :=
  match m name with
  | some (.number q) => some q
  | _ => none

def switch? (m : Memory) (name : List Char) : Option Bool :=
  match m name with
  | some (.switch on) => some on
  | _ => none

end Memory

/-- Executes a statement. It fails if a name is read that is not bound to an item of its kind. -/
def Statement.execute (series : Feature → Rat) (m : Memory) : Statement → Option Memory
  | .bind name item => some (m.set name item)
  | .series f => some (m.set f.series.toList (.number (series f)))
  | .addIf target switch weight factor => do
    let sum ← m.number? target
    let on ← m.switch? switch
    let w ← m.number? weight
    let x ← m.number? factor
    some (m.set target (.number (sum + if on then w * x else 0)))
  | .sum target left right => do
    let x ← m.number? left
    let y ← m.number? right
    some (m.set target (.number (x + y)))

def execute (series : Feature → Rat) : Memory → List Statement → Option Memory :=
  List.foldlM (Statement.execute series)

/-- Executes a script from the start, where nothing is bound. -/
def executeScript (series : Feature → Rat) (script : String) : Option Memory :=
  execute series (fun _ => none) (statements script)

/-! Reading a script back -/

theorem statement?_declaration (f : Field) {literal : String} (h : ',' ∉ literal.toList) :
    statement? (f.declaration literal).toList =
      (inputItem? f.inputKind.toList literal.toList).map (.bind f.variableName.toList) := by
  have words : ∀ f : Field, ' ' ∉ f.variableName.toList ∧ '(' ∉ f.inputKind.toList ∧
      '(' ∉ inputMark ++ f.inputKind.toList := by
    decide
  have name := takeWhile_until (words f).1
  have call := dropWhile_until (words f).1
  have kind := takeWhile_until (words f).2.1
  have arguments := dropWhile_until (words f).2.2
  have value := takeWhile_until h
  rw [toList_declaration, statement?]
  rw [inputMark, List.cons_append, name, call, ← List.cons_append, ← inputMark, if_pos (by simp),
    List.drop_left, kind, ← List.append_assoc, arguments, List.drop_one, List.tail_cons, value]

/-- The term of a feature, which counts only when its switch is on. -/
def term (f : Feature) : Statement :=
  .addIf "modelSum".toList (Field.enabled f).variableName.toList
    (Field.weight f).variableName.toList f.series.toList

def Block.fixedStatements : Block → List Statement
  | .featureEngineering => Feature.all.map .series
  | .scoreAccumulation => .bind "modelSum".toList (.number 0) :: Feature.all.map term
  | .nonlinearity => [.sum "linearComponent".toList "modelSum".toList "biasInput".toList]
  | _ => []

theorem statements_fixedLines (b : Block) :
    b.fixedLines.filterMap (fun text => statement? text.toList) = b.fixedStatements := by
  have spelled : ∀ b : Block, (spelledLines b).1.filterMap statement? = b.fixedStatements := by
    decide +kernel
  rw [← spelled b, ← (spelledLines b).2, List.filterMap_map]
  rfl

/-- The statement that the declaration of a field with a written value is. -/
def Field.statement? (literal : Field → String) (f : Field) : Option Statement :=
  (inputItem? f.inputKind.toList (literal f).toList).map (.bind f.variableName.toList)

def Block.fields : Block → List Field
  | .modelControls => [.lookback, .model, .bias]
  | .thresholds => [.buyThreshold, .sellThreshold]
  | .markerSize => [.markerSize]
  | .featureToggles => Feature.all.map .enabled
  | .featureWeights => Feature.all.map .weight
  | _ => []

theorem statements_block {literal : Field → String} (h : ∀ f, Inline (literal f)) (b : Block) :
    b.template.filterMap (fun line => Script.statement? (line.text literal).toList) =
      b.fields.filterMap (Field.statement? literal) ++ b.fixedStatements := by
  have declared (fields : List Field) :
      (fields.map Line.declare).filterMap (fun line => statement? (line.text literal).toList) =
        fields.filterMap (Field.statement? literal) := by
    rw [List.filterMap_map]
    apply List.filterMap_congr
    intro f _
    rw [Function.comp_apply, Line.text, statement?_declaration f (h f).comma, Field.statement?]
  have fixed (b : Block) :
      (b.fixedLines.map Line.fixed).filterMap (fun line => statement? (line.text literal).toList) =
        b.fixedStatements := by
    rw [← statements_fixedLines b, List.filterMap_map]
    rfl
  cases b with
  | modelControls =>
      have order : Block.modelControls.template = Block.modelControls.fixedLines.map .fixed ++
          [.lookback, .model, .bias].map .declare := rfl
      rw [order, List.filterMap_append, fixed, declared]
      exact (List.append_nil _).symm
  | thresholds =>
      have order : Block.thresholds.template = [.buyThreshold, .sellThreshold].map .declare := rfl
      rw [order, declared]
      exact (List.append_nil _).symm
  | markerSize =>
      have order : Block.markerSize.template =
          [.markerSize].map .declare ++ Block.markerSize.fixedLines.map .fixed := rfl
      rw [order, List.filterMap_append, fixed, declared]
      rfl
  | featureToggles =>
      have order : Block.featureToggles.template = (Feature.all.map .enabled).map .declare := rfl
      rw [order, declared]
      exact (List.append_nil _).symm
  | featureWeights =>
      have order : Block.featureWeights.template = (Feature.all.map .weight).map .declare := rfl
      rw [order, declared]
      exact (List.append_nil _).symm
  | _ => exact fixed _

/-- The series and the empty sum. -/
def formulas : List Statement := Feature.all.map .series ++ [.bind "modelSum".toList (.number 0)]

/-- The statements of a script before its terms. -/
def constants (literal : Field → String) : List Statement :=
  Field.all.filterMap (Field.statement? literal) ++ formulas

theorem statements_document {literal : Field → String} (h : ∀ f, Inline (literal f)) :
    statements (document literal) = constants literal ++ (Feature.all.map term ++
      [.sum "linearComponent".toList "modelSum".toList "biasInput".toList]) := by
  calc statements (document literal)
      = Block.all.flatMap fun b =>
          b.fields.filterMap (Field.statement? literal) ++ b.fixedStatements := by
        rw [statements, filterMap_document (fun f => (h f).newline) rfl]
        simp only [statements_block h]
    _ = _ := by
        have fields : Field.all = [.lookback, .model, .bias] ++ ([.buyThreshold, .sellThreshold] ++
            ([.markerSize] ++ (Feature.all.map .enabled ++ Feature.all.map .weight))) := rfl
        rw [constants, fields, List.filterMap_append, List.filterMap_append, List.filterMap_append,
          List.filterMap_append]
        simp only [Block.all, List.flatMap_cons, List.flatMap_nil, Block.fields, formulas,
          Block.fixedStatements, List.filterMap_nil, List.nil_append, List.append_nil,
          List.append_assoc, List.cons_append]

/-! Executing -/

def Statement.target : Statement → List Char
  | .bind name _ => name
  | .series f => f.series.toList
  | .addIf target _ _ _ => target
  | .sum target _ _ => target

/-- The item that a statement sets without reading a variable. -/
def Statement.constant? (series : Feature → Rat) : Statement → Option Item
  | .bind _ item => some item
  | .series f => some (.number (series f))
  | _ => none

theorem Statement.execute_constant {series : Feature → Rat} {s : Statement} {item : Item}
    (h : s.constant? series = some item) (m : Memory) :
    s.execute series m = some (m.set s.target item) := by
  cases s with
  | bind name value => rw [← Option.some.inj h]; rfl
  | series f => rw [← Option.some.inj h]; rfl
  | addIf => cases h
  | sum => cases h

theorem Memory.set_self (m : Memory) (name : List Char) (item : Item) :
    m.set name item name = some item := if_pos rfl

theorem Memory.set_of_ne (m : Memory) {name other : List Char} (h : other ≠ name) (item : Item) :
    m.set name item other = m other := if_neg h

theorem execute_cons {series : Feature → Rat} {m m' : Memory} {s : Statement}
    (h : s.execute series m = some m') (rest : List Statement) :
    execute series m (s :: rest) = execute series m' rest := by
  rw [execute, List.foldlM_cons, h]
  rfl

theorem execute_append {series : Feature → Rat} {m m' : Memory} {front : List Statement}
    (h : execute series m front = some m') (back : List Statement) :
    execute series m (front ++ back) = execute series m' back := by
  rw [execute, List.foldlM_append]
  rw [execute] at h
  rw [h]
  rfl

/-- Statements that read nothing and set different variables leave every variable with the item of
its statement, and the others as they were. -/
theorem execute_constants {series : Feature → Rat} {statements : List Statement}
    (constants : ∀ s ∈ statements, (s.constant? series).isSome)
    (distinct : statements.Pairwise fun s t => s.target ≠ t.target) (m : Memory) :
    ∃ m', execute series m statements = some m' ∧
      (∀ s ∈ statements, m' s.target = s.constant? series) ∧
      ∀ name, (∀ s ∈ statements, s.target ≠ name) → m' name = m name := by
  induction statements generalizing m with
  | nil => exact ⟨m, rfl, by simp, fun _ _ => rfl⟩
  | cons s rest ih =>
      obtain ⟨item, hs⟩ := Option.isSome_iff_exists.mp (constants s List.mem_cons_self)
      obtain ⟨later, distinct⟩ := List.pairwise_cons.mp distinct
      obtain ⟨m', run, set, kept⟩ := ih
        (fun t member => constants t (List.mem_cons_of_mem s member)) distinct (m.set s.target item)
      refine ⟨m', (execute_cons (s.execute_constant hs m) rest).trans run, ?_, ?_⟩
      -- The item set first is still there at the end: no later statement sets its variable.
      · intro t member
        rcases List.mem_cons.mp member with rfl | member
        · rw [kept t.target fun u hu => (later u hu).symm, Memory.set_self, hs]
        · exact set t member
      · intro name other
        have first := other s List.mem_cons_self
        rw [kept name fun t member => other t (List.mem_cons_of_mem s member),
          m.set_of_ne first.symm]

theorem constants_read_nothing (series : Feature → Rat) (literal : Field → String) :
    ∀ s ∈ constants literal, (s.constant? series).isSome := by
  intro s member
  rw [constants, formulas, List.mem_append, List.mem_append] at member
  rcases member with declared | formula | zero
  · obtain ⟨f, _, hs⟩ := List.mem_filterMap.mp declared
    obtain ⟨item, _, rfl⟩ := Option.map_eq_some_iff.mp hs
    rfl
  · obtain ⟨f, _, rfl⟩ := List.mem_map.mp formula
    rfl
  · rw [List.mem_singleton.mp zero]
    rfl

theorem Field.target_statement? {literal : Field → String} {f : Field} {s : Statement}
    (h : f.statement? literal = some s) : s.target = f.variableName.toList := by
  obtain ⟨item, _, rfl⟩ := Option.map_eq_some_iff.mp h
  rfl

theorem constants_distinct (literal : Field → String) :
    (constants literal).Pairwise fun s t => s.target ≠ t.target := by
  have fields : Field.all.Pairwise fun f g => f.variableName.toList ≠ g.variableName.toList := by
    decide
  have rest : formulas.Pairwise fun s t => s.target ≠ t.target := by
    decide
  have apart : ∀ f : Field, ∀ s ∈ formulas, f.variableName.toList ≠ s.target := by
    decide
  rw [constants, List.pairwise_append, List.pairwise_filterMap]
  refine ⟨fields.imp ?_, rest, ?_⟩
  · intro f g different s hs t ht
    rw [Field.target_statement? hs, Field.target_statement? ht]
    exact different
  · intro s member t later
    obtain ⟨f, _, hs⟩ := List.mem_filterMap.mp member
    rw [Field.target_statement? hs]
    exact apart f t later

/-- A memory in which every term and the bias can be read. -/
structure Ready (on : Feature → Bool) (weight series : Feature → Rat) (bias : Rat)
    (m : Memory) : Prop where
  switch (f : Feature) : m (Field.enabled f).variableName.toList = some (.switch (on f))
  weight (f : Feature) : m (Field.weight f).variableName.toList = some (.number (weight f))
  series (f : Feature) : m f.series.toList = some (.number (series f))
  bias : m Field.bias.variableName.toList = some (.number bias)

section Sum
variable {on : Feature → Bool} {weight series : Feature → Rat} {bias : Rat} {m : Memory}

theorem Ready.set_modelSum (h : Ready on weight series bias m) (item : Item) :
    Ready on weight series bias (m.set "modelSum".toList item) := by
  have other : ∀ f : Field, f.variableName.toList ≠ "modelSum".toList := by
    decide
  have apart : ∀ f : Feature, f.series.toList ≠ "modelSum".toList := by
    intro f
    cases f <;> decide
  constructor
  · intro f
    rw [m.set_of_ne (other (.enabled f)), h.switch]
  · intro f
    rw [m.set_of_ne (other (.weight f)), h.weight]
  · intro f
    rw [m.set_of_ne (apart f), h.series]
  · rw [m.set_of_ne (other .bias), h.bias]

theorem execute_term (h : Ready on weight series bias m) {sum : Rat}
    (hsum : m "modelSum".toList = some (.number sum)) (f : Feature) :
    (term f).execute series m = some (m.set "modelSum".toList
      (.number (sum + if on f then weight f * series f else 0))) := by
  simp only [term, Statement.execute, Memory.number?, Memory.switch?, hsum, h.switch f, h.weight f,
    h.series f]
  rfl

theorem execute_sum (series : Feature → Rat) (target : List Char) {left right : List Char}
    {x y : Rat} (hx : m left = some (.number x)) (hy : m right = some (.number y)) :
    (Statement.sum target left right).execute series m =
      some (m.set target (.number (x + y))) := by
  simp only [Statement.execute, Memory.number?, hx, hy]
  rfl

/-- Every feature that is on adds its weight times its own series. -/
theorem execute_terms (features : List Feature) (h : Ready on weight series bias m) {sum : Rat}
    (hsum : m "modelSum".toList = some (.number sum)) :
    ∃ m', execute series m (features.map term) = some m' ∧ Ready on weight series bias m' ∧
      m' "modelSum".toList =
        some (.number (sum + ((features.filter on).map fun f => weight f * series f).sum)) := by
  induction features generalizing m sum with
  | nil => exact ⟨m, rfl, h, by simpa using hsum⟩
  | cons f rest ih =>
      obtain ⟨m', run, ready, total⟩ := ih (h.set_modelSum _) (Memory.set_self _ _ _)
      refine ⟨m', (execute_cons (execute_term h hsum f) _).trans run, ready, ?_⟩
      rw [total]
      cases gate : on f with
      | true => simp [gate, add_assoc]
      | false => simp [gate]

end Sum

theorem numberText_of_rational? {v : Value} {r : Rat} (h : v.rational? = some r) :
    numberText v = Decimal.ofRat r := by
  cases v with
  | scalar s =>
      rw [Value.rational?] at h
      split at h
      · rename_i amount
        rw [← Option.some.inj h, numberText_of_exact amount]
      · cases h
  | list items => cases h
  | object entries => cases h

/-- What is written for an exact number reads as the number with two places. -/
theorem rational?_number {v : Value} {r : Rat} {text : String} (hv : v.rational? = some r)
    (h : number v = .ok text) : Numeral.rational? text.toList = some (Decimal.rounded r) := by
  have written := ok_of_mapError h
  rw [numberText_of_rational? hv] at written
  exact Numeral.rational?_of_ofRat written

theorem inputItem?_number {v : Value} {r : Rat} {text : String} (hv : v.rational? = some r)
    (h : number v = .ok text) :
    inputItem? "float".toList text.toList = some (.number (Decimal.nearestHundredth r)) := by
  rw [inputItem?, if_neg (by decide), if_pos (by decide), rational?_number hv h,
    Decimal.rounded_eq_nearestHundredth]
  rfl

theorem inputItem?_switch (on : Bool) :
    inputItem? "bool".toList (switchText on).toList = some (.switch on) := by
  cases on <;> rfl

section Settings
variable {c : Config} {bias : Rat} {weight : Feature → Rat}

/-- Once the fields, the series and the empty sum are set, the terms can be added. -/
theorem execute_constants_ready {literal : Field → String}
    (hl : ∀ f : Field, f.literal c = .ok (literal f)) (hb : c.bias.rational? = some bias)
    (hw : ∀ f, (c.weights.get f).rational? = some (weight f)) (series : Feature → Rat) :
    ∃ m, execute series (fun _ => none) (constants literal) = some m ∧
      Ready (fun f => (c.features.get f).truthy) (fun f => Decimal.nearestHundredth (weight f))
        series (Decimal.nearestHundredth bias) m ∧
      m "modelSum".toList = some (.number 0) := by
  obtain ⟨m, run, set, _⟩ := execute_constants (constants_read_nothing series literal)
    (constants_distinct literal) fun _ => none
  have declared {f : Field} {item : Item}
      (h : inputItem? f.inputKind.toList (literal f).toList = some item) :
      m f.variableName.toList = some item := by
    have statement : f.statement? literal = some (.bind f.variableName.toList item) := by
      rw [Field.statement?, h]
      rfl
    exact set _ (List.mem_append_left _ (List.mem_filterMap.mpr ⟨f, f.mem_all, statement⟩))
  have formula {s : Statement} (h : s ∈ formulas) : m s.target = s.constant? series :=
    set s (List.mem_append_right _ h)
  refine ⟨m, run, ⟨?_, ?_, ?_, ?_⟩, ?_⟩
  · intro f
    apply declared
    rw [← Except.ok.inj (hl (.enabled f))]
    exact inputItem?_switch (c.features.get f).truthy
  · intro f
    exact declared (inputItem?_number (hw f) (hl (.weight f)))
  · intro f
    apply formula (s := .series f)
    cases f <;> decide
  · exact declared (inputItem?_number hb (hl .bias))
  · exact formula (s := .bind "modelSum".toList (.number 0)) (by decide)

/-- Executing a script never reads a variable before it is set, and its linear score is the bias
plus, for exactly the features that are on, the weight times the series of the feature. -/
theorem executeScript_generate {script : String} (period : c.lookback.IsNumber)
    (hb : c.bias.rational? = some bias) (hw : ∀ f, (c.weights.get f).rational? = some (weight f))
    (h : generate c = .ok script) (series : Feature → Rat) :
    ∃ m, executeScript series script = some m ∧
      m "linearComponent".toList = some (.number (Decimal.nearestHundredth bias +
        ((Feature.all.filter fun f => (c.features.get f).truthy).map fun f =>
          Decimal.nearestHundredth (weight f) * series f).sum)) := by
  obtain ⟨literal, hl, rfl⟩ := literals_of_generate h
  obtain ⟨start, fields, ready, zero⟩ := execute_constants_ready hl hb hw series
  obtain ⟨m, terms, ready, total⟩ := execute_terms Feature.all ready zero
  rw [zero_add] at total
  have last := execute_sum series "linearComponent".toList total ready.bias
  refine ⟨m.set "linearComponent".toList _, ?_, Memory.set_self _ _ _⟩
  rw [executeScript, statements_document fun f => inline_literal period (hl f),
    execute_append fields, execute_append terms, add_comm]
  exact execute_cons last []

end Settings

/-- Switches count by their truth, and each number with two places. -/
theorem score_of_mixed_settings :
    let c : Config := { (.standard : Config) with
      features := .ofFn fun
        | .rsi => .int 2
        | .macd => .bool true
        | .volume => .text ""
        | .price => .list [.null]
      weights := .ofFn fun
        | .rsi => .float 0.125
        | .macd => .bool true
        | .volume => .int 7
        | .price => .int (-1000)
      bias := .float (-0.125) }
    ∃ script, c.lookback.IsNumber ∧ generate c = .ok script ∧ ∀ series : Feature → Rat,
      ∃ m, executeScript series script = some m ∧ m "linearComponent".toList =
        some (.number (-13 / 100 + (13 / 100 * series .rsi +
          (series .macd + -1000 * series .price)))) := by
  intro c
  let weight : Feature → Rat
    | .rsi => 8⁻¹
    | .macd => 1
    | .volume => 7
    | .price => -1000
  have bias : c.bias.rational? = some (-1 / 8) := by
    decide +kernel
  have weights : ∀ f, (c.weights.get f).rational? = some (weight f) := by
    intro f
    cases f <;> decide +kernel
  have written : ∀ f : Field, ∃ text, f.literal c = .ok text := by
    intro f
    cases f with
    | enabled f => exact ⟨_, rfl⟩
    | weight f => cases f <;> exact ⟨_, rfl⟩
    | _ => exact ⟨_, rfl⟩
  choose literal hl using written
  have script := generate_of_literals hl
  refine ⟨_, trivial, script, ?_⟩
  intro series
  obtain ⟨m, run, score⟩ := @executeScript_generate c _ _ _ trivial bias weights script series
  refine ⟨m, run, score.trans ?_⟩
  have rounded : Decimal.nearestHundredth (-1 / 8) = -13 / 100 ∧
      Decimal.nearestHundredth 8⁻¹ = 13 / 100 ∧ Decimal.nearestHundredth 1 = 1 ∧
      Decimal.nearestHundredth (-1000) = -1000 := by
    simp only [← Decimal.rounded_eq_nearestHundredth]
    decide +kernel
  have on : (Feature.all.filter fun f => (c.features.get f).truthy) = [.rsi, .macd, .price] := by
    decide
  rw [on, rounded.1]
  simp [weight, rounded]

end Script
end IndicatorDesigner
