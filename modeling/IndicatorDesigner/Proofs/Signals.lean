import IndicatorDesigner.Proofs.Acceptance
import IndicatorDesigner.Proofs.Score

/-!
The signals that a script computes. Each is a conjunction of comparisons between variables, read
back from its line, and holds or not for a probability, with the thresholds as the script declares
them. Thresholds are written with two places, so two that differ by less than a hundredth may meet
there, and then neither signal ever holds. Nor does one if the threshold to buy at is the lower one,
as rounding keeps the order.
-/
namespace IndicatorDesigner

namespace Script

/-- How two variables are compared. -/
inductive Relation where
  | atLeast
  | atMost
  | above
  deriving DecidableEq

def Relation.holds : Relation → Rat → Rat → Bool
  | .atLeast, x, y => y ≤ x
  | .atMost, x, y => x ≤ y
  | .above, x, y => y < x

theorem Relation.holds_atLeast (x y : Rat) : atLeast.holds x y = decide (y ≤ x) := rfl

theorem Relation.holds_atMost (x y : Rat) : atMost.holds x y = decide (x ≤ y) := rfl

theorem Relation.holds_above (x y : Rat) : above.holds x y = decide (y < x) := rfl

def relation? : List Char → Option Relation
  | ['>', '='] => some .atLeast
  | ['<', '='] => some .atMost
  | ['>'] => some .above
  | _ => none

/-- A comparison of two variables. -/
structure Comparison where
  left : List Char
  relation : Relation
  right : List Char
  deriving DecidableEq

/-- A signal with the two comparisons that it is the conjunction of. -/
structure Signal where
  name : List Char
  first : Comparison
  second : Comparison
  deriving DecidableEq

/-- The signal that a line binds. An input is none. -/
def signal? (line : List Char) : Option Signal :=
  if inputMark.isPrefixOf (line.dropWhile (· != ' ')) then none
  else
    match line.splitOn ' ' with
    | [name, ['='], a, r, b, ['a', 'n', 'd'], c, s, d] => do
      some ⟨name, ⟨a, ← relation? r, b⟩, ⟨c, ← relation? s, d⟩⟩
    | _ => none

def signals (script : String) : List Signal := (linesOf script).filterMap signal?

/-- The number that a script last declares a variable with. -/
def default? (script : String) (name : List Char) : Option Rat :=
  ((numericInputs script).reverse.find? fun input => input.name.toList == name).map (·.value)

/-- What a variable stands for: the probability, or what it is declared with. -/
def operand? (script : String) (p : Rat) (name : List Char) : Option Rat :=
  if name = "probability".toList then some p else default? script name

def Comparison.holds? (value : List Char → Option Rat) (c : Comparison) : Option Bool := do
  some (c.relation.holds (← value c.left) (← value c.right))

def Signal.holds? (value : List Char → Option Rat) (s : Signal) : Option Bool := do
  some ((← s.first.holds? value) && (← s.second.holds? value))

theorem Signal.holds?_eq {value : List Char → Option Rat} {s : Signal} {a b c d : Rat}
    (ha : value s.first.left = some a) (hb : value s.first.right = some b)
    (hc : value s.second.left = some c) (hd : value s.second.right = some d) :
    s.holds? value = some (s.first.relation.holds a b && s.second.relation.holds c d) := by
  simp only [holds?, Comparison.holds?, ha, hb, hc, hd, Option.bind_eq_bind, Option.bind_some]

/-- Whether the signal that a script last binds to a name holds for a probability. -/
def fires? (script : String) (name : List Char) (p : Rat) : Option Bool := do
  (← (signals script).reverse.find? fun s => s.name == name).holds? (operand? script p)

/-! Reading a script back -/

theorem signal?_declaration (f : Field) (literal : String) :
    signal? (f.declaration literal).toList = none := by
  have word : ∀ f : Field, ' ' ∉ f.variableName.toList := by
    decide
  have call := dropWhile_until (word f)
  rw [toList_declaration, signal?]
  rw [inputMark, List.cons_append, call, ← List.cons_append, ← inputMark, if_pos (by simp)]

/-- That the thresholds are in order. -/
def inOrder : Comparison := ⟨"buyThreshold".toList, .above, "sellThreshold".toList⟩

def buySignal : Signal :=
  ⟨"buySignal".toList, ⟨"probability".toList, .atLeast, "buyThreshold".toList⟩, inOrder⟩

def sellSignal : Signal :=
  ⟨"sellSignal".toList, ⟨"probability".toList, .atMost, "sellThreshold".toList⟩, inOrder⟩

def Block.fixedSignals : Block → List Signal
  | .signals => [buySignal, sellSignal]
  | _ => []

theorem signals_fixedLines (b : Block) :
    b.fixedLines.filterMap (fun text => signal? text.toList) = b.fixedSignals := by
  have spelled : ∀ b : Block, (spelledLines b).1.filterMap signal? = b.fixedSignals := by
    decide +kernel
  rw [← spelled b, ← (spelledLines b).2, List.filterMap_map]
  rfl

theorem signals_block (literal : Field → String) (b : Block) :
    b.template.filterMap (fun line => signal? (line.text literal).toList) = b.fixedSignals := by
  have fixed : b.template.filterMap Line.fixed? = b.fixedLines := by
    cases b <;> rfl
  rw [← signals_fixedLines, ← fixed, List.filterMap_filterMap]
  apply List.filterMap_congr
  intro line _
  cases line with
  | fixed text => rfl
  | declare f => exact signal?_declaration f (literal f)

/-- Whatever the period is, the last signals of a script are the two of its template. -/
theorem signals_behindPeriod {literal : Field → String}
    (line : ∀ f, f ≠ .lookback → '\n' ∉ (literal f).toList) :
    ∃ earlier, signals (document literal) = earlier ++ [buySignal, sellSignal] := by
  have blocks : behindPeriod = [.declare .model, .declare .bias, .fixed ""] ++
      ([.fixed ""].intercalate ((Block.all.drop 2).map Block.template) ++ [.fixed ""]) := rfl
  have empty : [Line.fixed ""].filterMap (fun l => signal? (l.text literal).toList) = [] := rfl
  have controls : [Line.declare .model, .declare .bias, .fixed ""].filterMap
      (fun l => signal? (l.text literal).toList) = [] := by
    simp only [List.filterMap_cons, Line.text, signal?_declaration]
    exact empty
  have behind : behindPeriod.filterMap (fun l => signal? (l.text literal).toList) =
      [buySignal, sellSignal] := by
    rw [blocks, List.filterMap_append, controls, List.filterMap_append,
      filterMap_intercalate empty, empty, List.flatMap_map]
    simp only [signals_block]
    rfl
  obtain ⟨earlier, lines⟩ := linesOf_behindPeriod line
  refine ⟨earlier.filterMap signal?, ?_⟩
  rw [signals, lines, List.filterMap_append, List.filterMap_map, ← behind]
  rfl

theorem name_of_input? {f : Field} {literal : String} {input : NumericInput}
    (h : f.input? literal = some input) : input.name = f.variableName := by
  simp only [Field.input?, Option.bind_eq_bind, Option.bind_eq_some_iff, Option.some.injEq] at h
  obtain ⟨_, _, _, _, rfl⟩ := h
  rfl

/-- A numeric field other than the period is declared with the number that is written for it. -/
theorem default?_document {literal : Field → String}
    (line : ∀ f, f ≠ .lookback → '\n' ∉ (literal f).toList)
    (one : ∀ f, f ≠ .lookback → ',' ∉ (literal f).toList) {f : Field} (other : f ≠ .lookback)
    (bounded : f.range?.isSome = true) {q : Rat}
    (h : Numeral.rational? (literal f).toList = some q) :
    default? (document literal) f.variableName.toList = some q := by
  obtain ⟨range, hr⟩ := Option.isSome_iff_exists.mp bounded
  have input : f.input? (literal f) = some ⟨f.variableName, q, range.1, range.2⟩ := by
    simp only [Field.input?, h, hr]
    rfl
  have distinct : ∀ f g : Field, g.variableName.toList = f.variableName.toList → g = f := by
    decide
  have declared : f ∈ Field.all.tail := (List.mem_cons.mp f.mem_all).resolve_left other
  have found : Field.all.tail.reverse.find? (fun g => (g.input? (literal g)).any
      fun i => i.name.toList == f.variableName.toList) = some f := by
    cases hf : Field.all.tail.reverse.find? (fun g => (g.input? (literal g)).any
        fun i => i.name.toList == f.variableName.toList) with
    | none =>
        have absent := List.find?_eq_none.mp hf f (List.mem_reverse.mpr declared)
        simp [input] at absent
    | some g =>
        have named := List.find?_some hf
        cases hg : g.input? (literal g) with
        | none => simp [hg] at named
        | some other =>
            rw [hg, Option.any_some, beq_iff_eq, name_of_input? hg] at named
            rw [distinct f g named]
  obtain ⟨earlier, inputs⟩ := numericInputs_behindPeriod line one
  rw [default?, inputs, List.reverse_append, List.find?_append, ← List.filterMap_reverse,
    List.find?_filterMap, found, Option.bind_some, input, Option.some_or, Option.map_some]

section Settings
variable {c : Config} {buy sell : Rat} {script : String}

/-- The thresholds of a script are those of its settings, with two places. -/
theorem thresholds_of_generate (hb : c.buyThreshold.rational? = some buy)
    (hs : c.sellThreshold.rational? = some sell) (h : generate c = .ok script) :
    default? script "buyThreshold".toList = some (Decimal.rounded buy) ∧
      default? script "sellThreshold".toList = some (Decimal.rounded sell) := by
  obtain ⟨literal, hl, rfl⟩ := literals_of_generate h
  have inline (f : Field) (other : f ≠ .lookback) : Inline (literal f) := inline_other other (hl f)
  have declared {f : Field} (other : f ≠ .lookback) (bounded : f.range?.isSome = true) {q : Rat}
      (written : Numeral.rational? (literal f).toList = some q) :
      default? (document literal) f.variableName.toList = some q :=
    default?_document (fun f other => (inline f other).newline)
      (fun f other => (inline f other).comma) other bounded written
  exact ⟨declared (f := .buyThreshold) nofun rfl (rational?_number hb (hl .buyThreshold)),
    declared (f := .sellThreshold) nofun rfl (rational?_number hs (hl .sellThreshold))⟩

/-- A signal holds when the probability reaches its threshold and the thresholds are in order. -/
theorem fires_of_generate (hb : c.buyThreshold.rational? = some buy)
    (hs : c.sellThreshold.rational? = some sell) (h : generate c = .ok script) (p : Rat) :
    fires? script "buySignal".toList p = some (decide (Decimal.rounded buy ≤ p) &&
        decide (Decimal.rounded sell < Decimal.rounded buy)) ∧
      fires? script "sellSignal".toList p = some (decide (p ≤ Decimal.rounded sell) &&
        decide (Decimal.rounded sell < Decimal.rounded buy)) := by
  obtain ⟨buyDefault, sellDefault⟩ := thresholds_of_generate hb hs h
  obtain ⟨literal, hl, rfl⟩ := literals_of_generate h
  obtain ⟨earlier, read⟩ :=
    signals_behindPeriod fun f other => (inline_other other (hl f)).newline
  have probability : operand? (document literal) p "probability".toList = some p := if_pos rfl
  have bought : operand? (document literal) p "buyThreshold".toList =
      some (Decimal.rounded buy) := by
    rw [operand?, if_neg (by decide), buyDefault]
  have sold : operand? (document literal) p "sellThreshold".toList =
      some (Decimal.rounded sell) := by
    rw [operand?, if_neg (by decide), sellDefault]
  have last (name : List Char) : (signals (document literal)).reverse.find? (·.name == name) =
      ([sellSignal, buySignal].find? (·.name == name)).or
        (earlier.reverse.find? (·.name == name)) := by
    rw [read, List.reverse_append, List.find?_append]
    rfl
  have lastBuy : (signals (document literal)).reverse.find?
      (fun s => s.name == "buySignal".toList) = some buySignal := last _
  have lastSell : (signals (document literal)).reverse.find?
      (fun s => s.name == "sellSignal".toList) = some sellSignal := last _
  have buys := Signal.holds?_eq (s := buySignal) probability bought bought sold
  have sells := Signal.holds?_eq (s := sellSignal) probability sold bought sold
  constructor
  · rw [fires?, lastBuy, Option.bind_eq_bind, Option.bind_some, buys, ← Relation.holds_atLeast,
      ← Relation.holds_above]
    rfl
  · rw [fires?, lastSell, Option.bind_eq_bind, Option.bind_some, sells, ← Relation.holds_atMost,
      ← Relation.holds_above]
    rfl

end Settings

end Script

/-- Thresholds on two sides of a half keep their order with two places, and are equal there only if
both are written as a half. -/
theorem Decimal.rounded_lt_rounded_iff {buy sell : Rat} (hb : 1 / 2 ≤ buy) (zero : 0 ≤ sell)
    (hs : sell ≤ 1 / 2) : rounded sell < rounded buy ↔ 101 / 200 ≤ buy ∨ sell < 99 / 200 := by
  have half : rounded (1 / 2) = 1 / 2 := by decide +kernel
  have low : 1 / 2 ≤ rounded buy := half ▸ rounded_mono hb
  have high : rounded sell ≤ 1 / 2 := half ▸ rounded_mono hs
  have buyAtMost : rounded buy ≤ 1 / 2 ↔ buy < 101 / 200 := by
    convert rounded_le_iff (by linarith : 0 ≤ buy) 50 using 2 <;> norm_num
  have buyAbove : 1 / 2 < rounded buy ↔ 101 / 200 ≤ buy := by
    rw [← not_le, buyAtMost, not_lt]
  have sellBelow : rounded sell < 1 / 2 ↔ sell < 99 / 200 := by
    convert rounded_lt_iff zero 50 using 2 <;> norm_num
  rw [← buyAbove, ← sellBelow]
  constructor
  · intro less
    rcases lt_or_ge (1 / 2) (rounded buy) with above | atMost
    · exact .inl above
    · exact .inr (lt_of_lt_of_le less atMost)
  · rintro (above | below)
    · exact lt_of_le_of_lt high above
    · exact lt_of_lt_of_le below low

theorem Value.rational?_float {x : Binary64} {q : Rat} (h : x.toRat? = some q) :
    (Value.float x).rational? = some q := by
  cases x with
  | finite negative m e canonical => simp [Value.rational?, Scalar.amount?, h]
  | infinite negative => cases h
  | nan => cases h

/-- The thresholds of an accepted request are written on their own sides of a half, the lower one
below the upper one unless both are nearer to a half than to the next hundredth. In its script each
signal holds exactly when the probability reaches its threshold and the written ones differ. -/
theorem written_thresholds_in_order {v : Value} {r : Request} (h : Request.ofValue v = .ok r) :
    ∃ buy sell script b s, r.buyThreshold.toRat? = some buy ∧ r.sellThreshold.toRat? = some sell ∧
      Script.generate r.toConfig = .ok script ∧
      Script.default? script "buyThreshold".toList = some b ∧
      Script.default? script "sellThreshold".toList = some s ∧
      s ≤ 1 / 2 ∧ 1 / 2 ≤ b ∧ (s < b ↔ 101 / 200 ≤ buy ∨ sell < 99 / 200) ∧
      ∀ p, Script.fires? script "buySignal".toList p = some (decide (b ≤ p) && decide (s < b)) ∧
        Script.fires? script "sellSignal".toList p = some (decide (p ≤ s) && decide (s < b)) := by
  have range := Request.inRange h
  obtain ⟨x, hx, buyRange⟩ := range.buyThreshold
  obtain ⟨y, hy, sellRange⟩ := range.sellThreshold
  obtain rfl : r.buyThreshold = x := Scalar.float.inj (Value.scalar.inj hx)
  obtain rfl : r.sellThreshold = y := Scalar.float.inj (Value.scalar.inj hy)
  have middle : (0.5 : Binary64).toRat? = some (1 / 2) := by decide +kernel
  obtain ⟨buy, hb, buyLow, _⟩ := buyRange.toRat? middle rfl
  obtain ⟨sell, hs, sellLow, sellHigh⟩ := sellRange.toRat? rfl middle
  have sellNonneg : 0 ≤ sell := le_trans (by decide +kernel) sellLow
  obtain ⟨script, generated, _⟩ := Script.generate_inRange range
  have buyValue := Value.rational?_float hb
  have sellValue := Value.rational?_float hs
  obtain ⟨buyDefault, sellDefault⟩ :=
    Script.thresholds_of_generate buyValue sellValue generated
  have half : Decimal.rounded (1 / 2) = 1 / 2 := by decide +kernel
  exact ⟨buy, sell, script, _, _, hb, hs, generated, buyDefault, sellDefault,
    half ▸ Decimal.rounded_mono sellHigh, half ▸ Decimal.rounded_mono buyLow,
    Decimal.rounded_lt_rounded_iff buyLow sellNonneg sellHigh,
    Script.fires_of_generate buyValue sellValue generated⟩

theorem written_thresholds_of_near_request :
    let v : Value := .object [("buy_threshold", .float 0.505), ("sell_threshold", .text "0.4949")]
    ∃ r, Request.ofValue v = .ok r ∧
      ∃ buy sell script b s, r.buyThreshold.toRat? = some buy ∧ r.sellThreshold.toRat? = some sell ∧
        Script.generate r.toConfig = .ok script ∧
        Script.default? script "buyThreshold".toList = some b ∧
        Script.default? script "sellThreshold".toList = some s ∧
        s ≤ 1 / 2 ∧ 1 / 2 ≤ b ∧ (s < b ↔ 101 / 200 ≤ buy ∨ sell < 99 / 200) ∧
        ∀ p, Script.fires? script "buySignal".toList p = some (decide (b ≤ p) && decide (s < b)) ∧
          Script.fires? script "sellSignal".toList p = some (decide (p ≤ s) && decide (s < b)) := by
  intro v
  have accepted : Request.ofValue v = .ok
      { lookback := Defaults.lookback, buyThreshold := 0.505, sellThreshold := 0.4949,
        features := [], weights := [], bias := Defaults.bias, model := Defaults.model,
        markerSize := Defaults.markerSize } := rfl
  exact ⟨_, accepted, written_thresholds_in_order accepted⟩

/-- Thresholds that differ by less than half a hundredth are written as equal ones, and no signal
ever holds. -/
theorem near_thresholds_never_signal :
    let v : Value := .object [("buy_threshold", .float 0.501), ("sell_threshold", .float 0.5)]
    ∃ r script, Request.ofValue v = .ok r ∧ r.buyThreshold.le r.sellThreshold = false ∧
      Script.generate r.toConfig = .ok script ∧
      Script.default? script "buyThreshold".toList = some (1 / 2) ∧
      Script.default? script "sellThreshold".toList = some (1 / 2) ∧
      ∀ p, Script.fires? script "buySignal".toList p = some false ∧
        Script.fires? script "sellSignal".toList p = some false := by
  intro v
  have accepted : Request.ofValue v = .ok
      { lookback := Defaults.lookback, buyThreshold := 0.501, sellThreshold := 0.5,
        features := [], weights := [], bias := Defaults.bias, model := Defaults.model,
        markerSize := Defaults.markerSize } := rfl
  have range := Request.inRange accepted
  obtain ⟨script, generated, _⟩ := Script.generate_inRange range
  obtain ⟨buy, hb, up⟩ : ∃ q, (0.501 : Binary64).toRat? = some q ∧ Decimal.rounded q = 1 / 2 :=
    ⟨_, rfl, by decide +kernel⟩
  obtain ⟨sell, hs, down⟩ : ∃ q, (0.5 : Binary64).toRat? = some q ∧ Decimal.rounded q = 1 / 2 :=
    ⟨_, rfl, by decide +kernel⟩
  have buyValue := Value.rational?_float hb
  have sellValue := Value.rational?_float hs
  have thresholds := Script.thresholds_of_generate buyValue sellValue generated
  have signals := Script.fires_of_generate buyValue sellValue generated
  rw [up, down] at thresholds
  refine ⟨_, script, accepted, by decide +kernel, generated, thresholds.1, thresholds.2, ?_⟩
  intro p
  have at_p := signals p
  simpa only [up, down, lt_self_iff_false, decide_false, Bool.and_false] using at_p

/-- Whole numbers, switches or finite numbers that are given as thresholds in the wrong order, or as
equal ones, are written in that order, and no signal ever holds. What else the settings are does not
matter, as long as there is a script. -/
theorem inverted_thresholds_never_signal {c : Config} {buy sell : Rat} {script : String}
    (hb : c.buyThreshold.rational? = some buy) (hs : c.sellThreshold.rational? = some sell)
    (inverted : buy ≤ sell) (h : Script.generate c = .ok script) :
    ∃ b s, Script.default? script "buyThreshold".toList = some b ∧
      Script.default? script "sellThreshold".toList = some s ∧ b ≤ s ∧
      ∀ p, Script.fires? script "buySignal".toList p = some false ∧
        Script.fires? script "sellSignal".toList p = some false := by
  obtain ⟨buyDefault, sellDefault⟩ := Script.thresholds_of_generate hb hs h
  have order := Decimal.rounded_mono inverted
  refine ⟨_, _, buyDefault, sellDefault, order, ?_⟩
  intro p
  have guarded := Script.fires_of_generate hb hs h p
  rwa [decide_eq_false (not_lt.mpr order), Bool.and_false, Bool.and_false] at guarded

/-- A switch and a number that are written alike, in a script whose period brings in a signal of its
own. -/
theorem inverted_thresholds_with_foreign_line :
    let foreign := "1\nbuySignal = probability >= probability and probability <= probability\n"
    let c : Config := { Config.standard with
      lookback := .text foreign, buyThreshold := .bool true, sellThreshold := .float 1.004 }
    ∃ buy sell script, c.buyThreshold.rational? = some buy ∧
      c.sellThreshold.rational? = some sell ∧ buy ≤ sell ∧ Script.generate c = .ok script ∧
      ∃ b s, Script.default? script "buyThreshold".toList = some b ∧
        Script.default? script "sellThreshold".toList = some s ∧ b ≤ s ∧
        ∀ p, Script.fires? script "buySignal".toList p = some false ∧
          Script.fires? script "sellSignal".toList p = some false := by
  intro foreign c
  have written (f : Script.Field) : ∃ text : String, f.literal c = .ok text := by
    cases f with
    | enabled f => exact ⟨_, rfl⟩
    | weight f => cases f <;> exact ⟨_, rfl⟩
    | _ => exact ⟨_, rfl⟩
  choose literal hl using written
  have generated := Script.generate_of_literals hl
  obtain ⟨sell, hs, inverted⟩ : ∃ q, c.sellThreshold.rational? = some q ∧ 1 ≤ q :=
    ⟨_, Value.rational?_float rfl, by decide +kernel⟩
  exact ⟨1, sell, _, rfl, hs, inverted, generated,
    inverted_thresholds_never_signal rfl hs inverted generated⟩

end IndicatorDesigner
