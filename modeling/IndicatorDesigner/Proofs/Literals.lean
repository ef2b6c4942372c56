import IndicatorDesigner.Proofs.Outcome
import IndicatorDesigner.Proofs.Reading
import IndicatorDesigner.Script.Field

/-!
What written settings consist of. A form with two places has digits, a sign, a point or the letters
of NaN, whatever it was made from, and every literal keeps to one argument of its line as long as
the period is a number.
-/
namespace IndicatorDesigner

/-- Whether a character may stand within an argument of a line. -/
def Plain (c : Char) : Prop := c ≠ '\n' ∧ c ≠ ','

instance (c : Char) : Decidable (Plain c) := inferInstanceAs (Decidable (_ ∧ _))

-- Goes through the list; there are too many characters to go through all of them.
instance decidableForallMem {p : Char → Prop} [DecidablePred p] (s : List Char) :
    Decidable (∀ c ∈ s, p c) :=
  List.decidableBAll p s

/-- A text within one argument of one line. -/
def Inline (s : String) : Prop := ∀ c ∈ s.toList, Plain c

instance (s : String) : Decidable (Inline s) :=
  inferInstanceAs (Decidable (∀ c ∈ s.toList, Plain c))

theorem plain_digitChar (n : Nat) : Plain (Nat.digitChar n) := by
  unfold Nat.digitChar
  repeat' refine iteInduction (motive := Plain) (fun _ => by decide) fun _ => ?_
  decide

theorem plain_of_isDigit {c : Char} (h : c.isDigit = true) : Plain c := by
  refine ⟨?_, ?_⟩
  · rintro rfl
    exact absurd h (by decide)
  · rintro rfl
    exact absurd h (by decide)

namespace Inline

theorem newline {s : String} (h : Inline s) : '\n' ∉ s.toList := fun member => (h _ member).1 rfl

theorem comma {s : String} (h : Inline s) : ',' ∉ s.toList := fun member => (h _ member).2 rfl

theorem append {a b : String} (ha : Inline a) (hb : Inline b) : Inline (a ++ b) := by
  intro c member
  rw [String.toList_append, List.mem_append] at member
  exact member.elim (ha c) (hb c)

theorem ofList {s : List Char} (h : ∀ c ∈ s, Plain c) : Inline (String.ofList s) := by
  intro c member
  rw [String.toList_ofList] at member
  exact h c member

theorem toString_nat (n : Nat) : Inline (toString n) := by
  intro c member
  rw [Nat.toString_eq_repr, Nat.toList_repr] at member
  exact plain_of_isDigit (Numeral.all_isDigit_toDigits n c member)

theorem toString_int (n : Int) : Inline (toString n) := by
  cases n with
  | ofNat k => exact toString_nat k
  | negSucc k => exact append (by decide) (toString_nat (k + 1))

end Inline

namespace Shortest

theorem plain_chars (d : Digits) : ∀ c ∈ d.chars, Plain c := by
  intro c member
  obtain ⟨n, _, rfl⟩ := List.mem_map.mp member
  exact plain_digitChar n

theorem plain_zeros (n : Nat) : ∀ c ∈ List.replicate n '0', Plain c := by
  intro c member
  rw [List.eq_of_mem_replicate member]
  decide

theorem inline_positional (d : Digits) : Inline d.positional := by
  have padded (n : Nat) : ∀ c ∈ d.chars ++ List.replicate n '0', Plain c := by
    intro c member
    exact (List.mem_append.mp member).elim (plain_chars d c) (plain_zeros n c)
  unfold Digits.positional
  split
  · refine .append (by decide) (.ofList ?_)
    intro c member
    exact (List.mem_append.mp member).elim (plain_zeros _ c) (plain_chars d c)
  · refine .append (.append (.ofList ?_) (by decide)) ?_
    · intro c member
      exact padded _ c (List.mem_of_mem_take member)
    · split
      · decide
      · refine .ofList ?_
        intro c member
        exact padded _ c (List.mem_of_mem_drop member)

theorem inline_padLeft (width n : Nat) : Inline (padLeft width n) :=
  .append (.ofList (plain_zeros _)) (.toString_nat n)

theorem inline_scientific {l : Layout} (mark : Inline l.mark) (d : Digits) :
    Inline (d.scientific l) := by
  have digits := plain_chars d
  refine .append (.append (.append (.ofList ?_) mark) ?_) (inline_padLeft _ _)
  · split
    · decide
    · rename_i h
      rwa [h] at digits
    · rename_i h
      rw [h] at digits
      intro c member
      rcases List.mem_cons.mp member with rfl | member
      · exact digits _ List.mem_cons_self
      · rcases List.mem_cons.mp member with rfl | member
        · decide
        · exact digits c (List.mem_cons_of_mem _ member)
  · split <;> decide

theorem inline_write {l : Layout} (mark : Inline l.mark) (infinity : Inline l.infinity)
    (nan : Inline l.nan) (x : Binary64) : Inline (l.write x) := by
  have sign (negative : Bool) : Inline (if negative then "-" else "") := by
    cases negative <;> decide
  cases x with
  | nan => exact nan
  | infinite negative => exact .append (sign negative) infinity
  | finite negative mantissa exponent canonical =>
      refine .append (sign negative) ?_
      dsimp only
      split
      · decide
      · split
        · exact inline_positional _
        · exact inline_scientific mark _

end Shortest

namespace Decimal

/-- A character of a form with two places. -/
def IsPart (c : Char) : Prop := c ∈ ['-', '.', 'N', 'a'] ∨ c.isDigit = true

instance (c : Char) : Decidable (IsPart c) := inferInstanceAs (Decidable (_ ∨ _))

theorem isPart_toString (n : Nat) : ∀ c ∈ (toString n).toList, IsPart c := by
  intro c member
  rw [Nat.toString_eq_repr, Nat.toList_repr] at member
  exact .inr (Numeral.all_isDigit_toDigits n c member)

theorem isPart_append {a b : String} (ha : ∀ c ∈ a.toList, IsPart c)
    (hb : ∀ c ∈ b.toList, IsPart c) : ∀ c ∈ (a ++ b).toList, IsPart c := by
  intro c member
  rw [String.toList_append, List.mem_append] at member
  exact member.elim (ha c) (hb c)

theorem isPart_hundredthsText (negative : Bool) (hundredths : Nat) :
    ∀ c ∈ (hundredthsText negative hundredths).toList, IsPart c := by
  have sign : ∀ c ∈ (if negative then "-" else "").toList, IsPart c := by
    cases negative <;> decide
  have point : ∀ c ∈ ".".toList, IsPart c := by
    decide
  exact isPart_append (isPart_append (isPart_append (isPart_append sign (isPart_toString _)) point)
    (isPart_toString _)) (isPart_toString _)

theorem isPart_nanText (negative : Bool) (payload : Nat) :
    ∀ c ∈ (nanText negative payload).toList, IsPart c := by
  refine isPart_append ?_ ?_
  · cases negative <;> decide
  · split
    · decide
    · exact isPart_toString _

theorem isPart_ofHundredths {negative : Bool} {hundredths : Nat} {text : String}
    (h : ofHundredths negative hundredths = .ok text) : ∀ c ∈ text.toList, IsPart c := by
  unfold ofHundredths at h
  split at h
  · exact Except.ok.inj h ▸ isPart_hundredthsText negative hundredths
  · cases h

theorem isPart_ofRat {r : Rat} {text : String} (h : ofRat r = .ok text) :
    ∀ c ∈ text.toList, IsPart c := by
  unfold ofRat at h
  split at h
  · rw [← Except.ok.inj h]
    decide
  · exact isPart_ofHundredths h

theorem isPart_twoPlaces {d : Decimal} {text : String} (h : d.twoPlaces = .ok text) :
    ∀ c ∈ text.toList, IsPart c := by
  unfold twoPlaces at h
  split at h
  · exact isPart_ofHundredths h
  · split at h
    · cases h
    · split at h
      · exact isPart_ofHundredths h
      · split at h
        · exact isPart_ofHundredths h
        · exact isPart_ofHundredths h
  · cases h
  · cases h
  · exact Except.ok.inj h ▸ isPart_nanText _ _

theorem inline_of_isPart {text : String} (h : ∀ c ∈ text.toList, IsPart c) : Inline text := by
  intro c member
  rcases h c member with letter | digit
  · have letters : ∀ c ∈ ['-', '.', 'N', 'a'], Plain c := by
      decide
    exact letters c letter
  · exact plain_of_isDigit digit

end Decimal

/-- A whole number, a binary64 number or a switch. -/
def Value.IsNumber : Value → Prop
  | .int _ => True
  | .float _ => True
  | .bool _ => True
  | _ => False

namespace Script

theorem isPart_numberText {v : Value} {text : String} (h : numberText v = .ok text) :
    ∀ c ∈ text.toList, Decimal.IsPart c := by
  unfold numberText at h
  split at h
  · cases h
  · exact Decimal.isPart_ofRat h
  · exact Decimal.isPart_ofRat h
  · exact Except.ok.inj h ▸ Decimal.isPart_nanText _ _
  · split at h
    · exact Decimal.isPart_ofRat h
    · cases h
  · obtain ⟨d, _, h⟩ := ok_of_bind h
    exact Decimal.isPart_twoPlaces h
  · cases h
  · obtain ⟨d, _, h⟩ := ok_of_bind h
    exact Decimal.isPart_twoPlaces h
  · cases h
  · cases h

theorem inline_plain {v : Value} (h : v.IsNumber) : Inline v.plain := by
  cases v with
  | list items => cases h
  | object entries => cases h
  | scalar s =>
      cases s with
      | null => cases h
      | text t => cases h
      | bool b => cases b <;> decide
      | int n => exact .toString_int n
      | float x => exact Shortest.inline_write (by decide) (by decide) (by decide) x

/-- The literals of settings that are no numbers. -/
def choices : List String :=
  Model.all.map (fun m => quote m.label) ++ MarkerSize.all.map (fun s => quote s.label) ++
    [switchText true, switchText false]

/-- Every literal but the one of the period is a number with two places or a choice. -/
theorem literal_forms {c : Config} {f : Field} (other : f ≠ .lookback) {text : String}
    (h : f.literal c = .ok text) : (∀ a ∈ text.toList, Decimal.IsPart a) ∨ text ∈ choices := by
  have number {v : Value} {text : String} (h : number v = .ok text) :
      ∀ a ∈ text.toList, Decimal.IsPart a := isPart_numberText (ok_of_mapError h)
  cases f with
  | lookback => exact absurd rfl other
  | model =>
      rw [← Except.ok.inj h]
      cases c.model <;> exact .inr (by decide)
  | markerSize =>
      rw [← Except.ok.inj h]
      cases c.markerSize <;> exact .inr (by decide)
  | enabled f =>
      rw [← Except.ok.inj h]
      cases (c.features.get f).truthy <;> exact .inr (by decide)
  | bias => exact .inl (number h)
  | buyThreshold => exact .inl (number h)
  | sellThreshold => exact .inl (number h)
  | weight f => exact .inl (number h)

/-- Every literal but the one of the period keeps to its argument, whatever the settings are. -/
theorem inline_other {c : Config} {f : Field} (other : f ≠ .lookback) {text : String}
    (h : f.literal c = .ok text) : Inline text := by
  have plain : ∀ text ∈ choices, Inline text := by
    decide
  rcases literal_forms other h with number | choice
  · exact Decimal.inline_of_isPart number
  · exact plain text choice

/-- Only a period that is no number could break out of its argument. -/
theorem inline_literal {c : Config} (period : c.lookback.IsNumber) {f : Field} {text : String}
    (h : f.literal c = .ok text) : Inline text := by
  by_cases other : f = .lookback
  · subst other
    simp only [Field.literal, plainText] at h
    split at h
    · cases h
    · exact Except.ok.inj h ▸ inline_plain period
  · exact inline_other other h

end Script
end IndicatorDesigner
