import IndicatorDesigner.Json.Reader
import IndicatorDesigner.Proofs.Outcome
import Mathlib.Data.List.TakeWhile

/-!
The limits of the JSON reader. A whole number may have too many digits and containers may stand too
deep inside each other; whatever else is wrong is a fault of the text. The reader only goes forward,
so a text with few digits and few opening brackets is within the limits.
-/
namespace IndicatorDesigner.Json

/-- A fault of the text itself, not a limit of the reader. -/
def Fault.OfText : Fault → Prop
  | .malformed _ _ => True
  | _ => False

/-- A text within the limits of the reader. -/
def Readable (s : String) : Prop := ∀ fault, read s = .error fault → fault.OfText

/-- Whether a code point opens a list or an object. -/
def opens (point : Nat) : Bool := Char.ofNat point == '[' || Char.ofNat point == '{'

/-- Whether a code point is one of the digits 0 to 9. -/
def isDigit (point : Nat) : Bool := (Char.ofNat point).isDigit

/-- Code points among which no more containers are opened than may be, and no more digits stand than
a whole number may have. -/
structure Within (depth : Nat) (points : List Nat) : Prop where
  openings : points.countP opens ≤ depth
  digits : points.countP isDigit ≤ Numeral.maxDigits

theorem Within.suffix {depth : Nat} {points rest : List Nat} (h : Within depth points)
    (hs : rest <:+ points) : Within depth rest :=
  ⟨Nat.le_trans hs.sublist.countP_le h.openings, Nat.le_trans hs.sublist.countP_le h.digits⟩

/-- Behind an opening bracket one container less may be opened. -/
theorem Within.enter {depth point : Nat} {rest : List Nat} (h : Within depth (point :: rest))
    (ho : opens point = true) : ∃ inner, depth = inner + 1 ∧ Within inner rest := by
  have openings := h.openings
  rw [List.countP_cons_of_pos ho] at openings
  cases depth with
  | zero => omega
  | succ inner =>
      refine ⟨inner, rfl, by omega, ?_⟩
      exact (h.suffix (List.suffix_cons point rest)).digits

/-- The reader goes on at a later place, or has found a fault of the text. -/
def Proceeds {α : Type} (points : List Nat) : Except Fault (α × Cursor) → Prop
  | .ok (_, next) => next.rest <:+ points
  | .error fault => fault.OfText

namespace Proceeds

variable {α β : Type} {points rest : List Nat} {result : Except Fault (α × Cursor)}

theorem mono (h : Proceeds rest result) (hs : rest <:+ points) : Proceeds points result := by
  cases result with
  | ok pair => exact List.IsSuffix.trans h hs
  | error fault => exact h

theorem bind {next : α × Cursor → Except Fault (β × Cursor)} (h : Proceeds points result)
    (hn : ∀ a c, c.rest <:+ points → Proceeds points (next (a, c))) :
    Proceeds points (result >>= next) := by
  cases result with
  | ok pair => exact hn pair.1 pair.2 h
  | error fault => exact h

theorem fail (c : Cursor) (reason : Reason) : Proceeds (α := α) points (c.fail reason) := trivial

end Proceeds

namespace Cursor

theorem advance_suffix (c : Cursor) (n : Nat) : (c.advance n).rest <:+ c.rest :=
  List.drop_suffix n c.rest

theorem skipBlanks_suffix (c : Cursor) : c.skipBlanks.rest <:+ c.rest := c.advance_suffix _

/-- Where reading goes on behind a comma or a colon. -/
theorem behind_suffix (c : Cursor) :
    (c.skipBlanks.advance 1).skipBlanks.rest <:+ c.rest :=
  ((c.skipBlanks.advance 1).skipBlanks_suffix.trans (c.skipBlanks.advance_suffix 1)).trans
    c.skipBlanks_suffix

theorem rest_of_next? {c : Cursor} {char : Char} (h : c.next? = some char) :
    ∃ point, c.rest = point :: (c.advance 1).rest ∧ Char.ofNat point = char := by
  obtain ⟨rest, position⟩ := c
  cases rest with
  | nil => cases h
  | cons point rest => exact ⟨point, rfl, Option.some.inj h⟩

end Cursor

theorem proceeds_readString (opening : Nat) (state : StringState) (points : List Nat)
    (position : Nat) (rest : List Nat) :
    Proceeds rest (readString opening state points position rest) := by
  induction rest generalizing state points position with
  | nil => cases state <;> trivial
  | cons point rest ih =>
      have later (state : StringState) (points : List Nat) (position : Nat) :
          Proceeds (point :: rest) (readString opening state points position rest) :=
        (ih state points position).mono (List.suffix_cons point rest)
      cases state with
      | text escaped =>
          rw [readString]
          split
          · exact List.suffix_cons point rest
          · split
            · exact later _ _ _
            · split
              · trivial
              · exact later _ _ _
      | backslash escaped =>
          rw [readString]
          split
          · split
            · trivial
            · exact later _ _ _
          · split
            · exact later _ _ _
            · trivial
      | hex escaped left value start =>
          rw [readString]
          split
          · trivial
          · cases left <;> exact later _ _ _

theorem wholePart_starts (s : List Char) : Numeral.wholePart s <+: s := by
  unfold Numeral.wholePart
  split
  · exact List.prefix_append ['0'] _
  · exact List.takeWhile_prefix _

theorem isDigit_wholePart {s : List Char} {c : Char} (h : c ∈ Numeral.wholePart s) :
    c.isDigit = true := by
  unfold Numeral.wholePart at h
  split at h
  · rw [List.mem_singleton.mp h]
    rfl
  · exact List.mem_takeWhile_imp h

/-- The whole part of a number has no more digits than the text that it is read from. -/
theorem length_wholePart_le (points : List Nat) (n : Nat) :
    (Numeral.wholePart (((points.takeWhile numberPoints.contains).map Char.ofNat).drop n)).length ≤
      points.countP isDigit := by
  have all (s : List Char) : (Numeral.wholePart s).countP Char.isDigit =
      (Numeral.wholePart s).length := List.countP_eq_length.mpr fun _ => isDigit_wholePart
  calc (Numeral.wholePart (((points.takeWhile numberPoints.contains).map Char.ofNat).drop n)).length
      = (Numeral.wholePart _).countP Char.isDigit := (all _).symm
    _ ≤ (((points.takeWhile numberPoints.contains).map Char.ofNat).drop n).countP Char.isDigit :=
      (wholePart_starts _).sublist.countP_le
    _ ≤ ((points.takeWhile numberPoints.contains).map Char.ofNat).countP Char.isDigit :=
      (List.drop_sublist n _).countP_le
    _ = (points.takeWhile numberPoints.contains).countP isDigit := List.countP_map
    _ ≤ points.countP isDigit := (List.takeWhile_sublist _).countP_le

variable {depth : Nat} {c : Cursor}

theorem proceeds_readNumber (h : Within depth c.rest) : Proceeds c.rest (readNumber c) := by
  unfold readNumber
  extract_lets run minus afterSign whole fraction exponent all next
  split
  · exact .fail c .value
  · split
    · split
      · rename_i tooLong
        have few : whole.length ≤ c.rest.countP isDigit := length_wholePart_le c.rest minus.length
        have := h.digits
        omega
      · exact c.advance_suffix _
    · split
      · exact c.advance_suffix _
      · exact .fail c .value

theorem proceeds_readAtom (h : Within depth c.rest) : Proceeds c.rest (readAtom c) := by
  rw [readAtom]
  split
  · exact c.advance_suffix _
  · exact proceeds_readNumber h

/-- A container is read behind its bracket, where one container less may be opened. -/
theorem Within.inside (h : Within depth c.rest) {bracket : Char} (hn : c.next? = some bracket)
    (ho : bracket = '[' ∨ bracket = '\x7b') : ∃ inner, depth = inner + 1 ∧
      (c.advance 1).skipBlanks.rest <:+ c.rest ∧ Within inner (c.advance 1).skipBlanks.rest := by
  obtain ⟨point, rest, shown⟩ := Cursor.rest_of_next? hn
  have opening : opens point = true := by
    rcases ho with rfl | rfl <;> simp [opens, shown]
  rw [rest] at h
  obtain ⟨inner, rfl, within⟩ := h.enter opening
  have later := (c.advance 1).skipBlanks_suffix
  exact ⟨inner, rfl, later.trans (c.advance_suffix 1), within.suffix later⟩

mutual

theorem proceeds_readValue (fuel : Nat) {depth : Nat} {c : Cursor} (h : Within depth c.rest) :
    Proceeds c.rest (readValue fuel depth c) := by
  cases fuel with
  | zero => exact .fail c .value
  | succ fuel =>
      unfold readValue
      split
      · refine ((proceeds_readString _ _ _ _ _).mono (List.drop_suffix 1 c.rest)).bind ?_
        exact fun s next hn => hn
      · rename_i bracket
        obtain ⟨inner, rfl, later, within⟩ := h.inside bracket (.inl rfl)
        simp only
        split
        · exact (Cursor.advance_suffix _ 1).trans later
        · refine ((proceeds_readItems fuel within).mono later).bind ?_
          exact fun items next hn => hn
      · rename_i bracket
        obtain ⟨inner, rfl, later, within⟩ := h.inside bracket (.inr rfl)
        simp only
        split
        · exact (Cursor.advance_suffix _ 1).trans later
        · refine ((proceeds_readEntries fuel [] within).mono later).bind ?_
          exact fun entries next hn => hn
      · exact proceeds_readAtom h

theorem proceeds_readItems (fuel : Nat) {depth : Nat} {c : Cursor} (h : Within depth c.rest) :
    Proceeds c.rest (readItems fuel depth c) := by
  cases fuel with
  | zero => exact .fail c .value
  | succ fuel =>
      unfold readItems
      refine (proceeds_readValue fuel h).bind fun item next hn => ?_
      simp only
      split
      · exact (Cursor.advance_suffix _ 1).trans (next.skipBlanks_suffix.trans hn)
      · have behind := next.behind_suffix.trans hn
        refine ((proceeds_readItems fuel (h.suffix behind)).mono behind).bind ?_
        exact fun items last hl => hl
      · exact .fail _ .comma

theorem proceeds_readEntries (fuel : Nat) {depth : Nat} {c : Cursor}
    (entries : List (Chars × Value)) (h : Within depth c.rest) :
    Proceeds c.rest (readEntries fuel depth entries c) := by
  cases fuel with
  | zero => exact .fail c .value
  | succ fuel =>
      unfold readEntries
      split
      · refine ((proceeds_readString _ _ _ _ _).mono (List.drop_suffix 1 c.rest)).bind
          fun key next hn => ?_
        simp only
        split
        · have behind := next.behind_suffix.trans hn
          refine ((proceeds_readValue fuel (h.suffix behind)).mono behind).bind fun v next hn => ?_
          simp only
          split
          · exact (Cursor.advance_suffix _ 1).trans (next.skipBlanks_suffix.trans hn)
          · have behind := next.behind_suffix.trans hn
            exact (proceeds_readEntries fuel _ (h.suffix behind)).mono behind
          · exact .fail _ .comma
        · exact .fail _ .colon
      · exact .fail c .propertyName

end

theorem countP_points (p : Char → Bool) (s : String) :
    (Text.points s).countP (fun point => p (Char.ofNat point)) = s.toList.countP p := by
  rw [Text.points, List.countP_map]
  simp only [Function.comp_def, Char.ofNat_toNat]

/-- A text with few opening brackets and few digits is within the limits, whatever it holds. -/
theorem readable_of_few {s : String}
    (brackets : s.toList.countP (fun c => c == '[' || c == '\x7b') ≤ maxDepth)
    (digits : s.toList.countP Char.isDigit ≤ Numeral.maxDigits) : Readable s := by
  have within : Within maxDepth (Text.points s) :=
    ⟨(countP_points _ s).trans_le brackets, (countP_points _ s).trans_le digits⟩
  intro fault failed
  rw [read] at failed
  split at failed
  · cases failed
    trivial
  · have start := within.suffix (Cursor.skipBlanks_suffix ⟨Text.points s, 0⟩)
    have proceeds := proceeds_readValue (2 * (Text.points s).length + 2) start
    rcases error_of_bind failed with failed | ⟨⟨v, next⟩, _, failed⟩
    · rw [failed] at proceeds
      exact proceeds
    · simp only at failed
      split at failed
      · cases failed
      · cases failed
        trivial

end IndicatorDesigner.Json
