import IndicatorDesigner.Proofs.Inputs
import IndicatorDesigner.Proofs.Literals
import Mathlib.Data.List.Infix

/-!
The words of a script: which variables its lines introduce, which names they use, and how often a
text occurs in it. A text occurs in a script as often as in its lines together, and where each line
names only variables that are introduced further up, every variable has one line that introduces it,
with all of its other occurrences below.
-/
namespace IndicatorDesigner.Script

abbrev Word := List Char

def inWord (c : Char) : Bool := c.isAlphanum || c == '_'

/-- What stands between the characters that belong to no word, also where that is nothing. -/
def pieces (text : List Char) : List Word := text.splitOnP fun c => !inWord c

/-- The longest runs of letters, digits and underscores. -/
def words (text : List Char) : List Word := (pieces text).filter (· ≠ [])

theorem pieces_cons (c : Char) (text : List Char) :
    pieces (c :: text) =
      if inWord c then (pieces text).modifyHead (List.cons c) else [] :: pieces text := by
  rw [pieces, List.splitOnP_cons_eq_if_modifyHead]
  cases inWord c <;> rfl

theorem pieces_ne_nil (text : List Char) : pieces text ≠ [] := List.splitOnP_ne_nil _ _

theorem words_append {c : Char} (h : inWord c = false) (front back : List Char) :
    words (front ++ c :: back) = words front ++ words back := by
  rw [words, pieces, List.splitOnP_append_cons front back (by simp [h]), List.filter_append]
  rfl

theorem subset_of_mem_pieces {text : List Char} {piece : Word} (h : piece ∈ pieces text) :
    piece ⊆ text := by
  induction text generalizing piece with
  | nil =>
      obtain rfl := List.mem_singleton.mp h
      exact List.Subset.refl []
  | cons c text ih =>
      obtain ⟨first, rest, parts⟩ := List.exists_cons_of_ne_nil (pieces_ne_nil text)
      rw [pieces_cons, parts] at h
      rw [parts] at ih
      split at h
      · rcases List.mem_cons.mp h with rfl | h
        · exact List.cons_subset_cons c (ih List.mem_cons_self)
        · exact List.subset_cons_of_subset c (ih (List.mem_cons_of_mem first h))
      · rcases List.mem_cons.mp h with rfl | h
        · exact List.nil_subset _
        · exact List.subset_cons_of_subset c (ih h)

theorem subset_of_mem_words {text : List Char} {word : Word} (h : word ∈ words text) :
    word ⊆ text :=
  subset_of_mem_pieces (List.mem_of_mem_filter h)

/-- The pieces of a text that have an end on both sides, so they are whole wherever it stands. -/
def enclosed (part : List Char) : List Word := (pieces part).tail.dropLast

theorem tail_pieces_subset (front text : List Char) :
    (pieces text).tail ⊆ (pieces (front ++ text)).tail := by
  induction front with
  | nil => exact List.Subset.refl _
  | cons c front ih =>
      rw [List.cons_append, pieces_cons]
      split
      · rwa [List.tail_modifyHead]
      · exact List.Subset.trans ih (List.tail_subset _)

theorem dropLast_pieces_append (text back : List Char) :
    (pieces text).dropLast <+: pieces (text ++ back) := by
  induction text with
  | nil => exact List.nil_prefix
  | cons c text ih =>
      obtain ⟨first, rest, parts⟩ := List.exists_cons_of_ne_nil (pieces_ne_nil text)
      obtain ⟨front, more, longer⟩ := List.exists_cons_of_ne_nil (pieces_ne_nil (text ++ back))
      rw [List.cons_append, pieces_cons, pieces_cons]
      split
      · rw [parts, longer] at ih ⊢
        cases rest with
        | nil => exact List.nil_prefix
        | cons next rest =>
            obtain ⟨rfl, behind⟩ := List.cons_prefix_cons.mp ih
            exact List.cons_prefix_cons.mpr ⟨rfl, behind⟩
      · rw [List.dropLast_cons_of_ne_nil (pieces_ne_nil text)]
        exact List.cons_prefix_cons.mpr ⟨rfl, ih⟩

theorem enclosed_subset {part text : List Char} (h : part <:+: text) :
    enclosed part ⊆ pieces text := by
  obtain ⟨front, back, rfl⟩ := h
  have inner : enclosed part ⊆ (pieces (part ++ back)).tail := by
    rw [enclosed, ← List.tail_dropLast, ← List.drop_one, ← List.drop_one]
    exact ((dropLast_pieces_append part back).drop 1).subset
  have outer : (pieces (part ++ back)).tail ⊆ pieces (front ++ (part ++ back)) :=
    List.Subset.trans (tail_pieces_subset front _) (List.tail_subset _)
  rw [List.append_assoc]
  exact List.Subset.trans inner outer

/-! Occurrences of a text -/

/-- How often a text stands within another one. -/
def occurrences (part text : List Char) : Nat := text.tails.countP part.isPrefixOf

section Occurrences
variable {part text : List Char}

theorem occurrences_eq_zero (h : ¬ part <:+: text) : occurrences part text = 0 := by
  refine List.countP_eq_zero.mpr ?_
  intro rest member starts
  exact h (List.infix_iff_prefix_suffix.mpr
    ⟨rest, List.isPrefixOf_iff_prefix.mp starts, (List.mem_tails rest text).mp member⟩)

theorem occurrences_pos (h : part <:+: text) : 0 < occurrences part text := by
  obtain ⟨rest, starts, member⟩ := List.infix_iff_prefix_suffix.mp h
  exact List.countP_pos_iff.mpr
    ⟨rest, (List.mem_tails rest text).mpr member, List.isPrefixOf_iff_prefix.mpr starts⟩

/-- A text occurs at most as often as its beginning. -/
theorem occurrences_le_of_start {start : List Char} (h : start <+: part) :
    occurrences part text ≤ occurrences start text := by
  refine List.countP_mono_left ?_
  intro rest _ starts
  exact List.isPrefixOf_iff_prefix.mpr (h.trans (List.isPrefixOf_iff_prefix.mp starts))

theorem prefix_append_cons_iff {c : Char} (h : c ∉ part) (front back : List Char) :
    part <+: front ++ c :: back ↔ part <+: front := by
  induction front generalizing part with
  | nil =>
      cases part with
      | nil => simp
      | cons a part =>
          have different : a ≠ c := by
            rintro rfl
            exact h List.mem_cons_self
          simp [List.cons_prefix_cons, different]
  | cons b front ih =>
      cases part with
      | nil => simp
      | cons a part =>
          rw [List.cons_append, List.cons_prefix_cons, List.cons_prefix_cons,
            ih (List.not_mem_of_not_mem_cons h)]

/-- Nothing occurs across a character that it does not have. -/
theorem occurrences_append_cons {c : Char} (h : c ∉ part) (nonempty : part ≠ [])
    (front back : List Char) :
    occurrences part (front ++ c :: back) = occurrences part front + occurrences part back := by
  induction front with
  | nil =>
      have first : part.isPrefixOf (c :: back) = false := by
        rw [Bool.eq_false_iff, Ne, List.isPrefixOf_iff_prefix]
        exact fun starts =>
          nonempty (List.prefix_nil.mp ((prefix_append_cons_iff h [] back).mp starts))
      simp [occurrences, first, nonempty]
  | cons b front ih =>
      have first : part.isPrefixOf (b :: front ++ c :: back) = part.isPrefixOf (b :: front) := by
        rw [Bool.eq_iff_iff, List.isPrefixOf_iff_prefix, List.isPrefixOf_iff_prefix]
        exact prefix_append_cons_iff h (b :: front) back
      simp only [occurrences, List.cons_append, List.tails_cons, List.countP_cons] at first ih ⊢
      rw [first, ih]
      omega

theorem occurrences_intercalate {c : Char} (h : c ∉ part) (nonempty : part ≠ [])
    (lines : List (List Char)) :
    occurrences part ([c].intercalate lines) = (lines.map (occurrences part)).sum := by
  induction lines with
  | nil => simp [occurrences, nonempty]
  | cons line rest ih =>
      cases rest with
      | nil => simp
      | cons next rest =>
          rw [List.intercalate_cons_cons, List.append_assoc, List.singleton_append,
            occurrences_append_cons h nonempty, ih]
          rfl

/-- A text without a newline occurs in a script as often as in its lines together. -/
theorem occurrences_linesOf (h : '\n' ∉ part) (nonempty : part ≠ []) (script : String) :
    occurrences part script.toList = ((linesOf script).map (occurrences part)).sum := by
  rw [← occurrences_intercalate h nonempty, linesOf, List.intercalate_splitOn]

end Occurrences

/-- The texts stand one behind the other within a text. -/
def InOrder : List (List Char) → List Char → Prop
  | [], _ => True
  | part :: rest, text => ∃ front back, text = front ++ part ++ back ∧ InOrder rest back

theorem InOrder.intercalate (mark : List Char) (parts : List (List Char)) (front back : List Char) :
    InOrder parts (front ++ (mark.intercalate parts ++ back)) := by
  induction parts generalizing front with
  | nil => trivial
  | cons part rest ih =>
      cases rest with
      | nil => exact ⟨front, back, by simp, trivial⟩
      | cons next rest =>
          exact ⟨front, _, by simp [List.intercalate_cons_cons], ih mark⟩

theorem InOrder.within {parts : List (List Char)} {text : List Char} (h : InOrder parts text) :
    ∀ part ∈ parts, part <:+: text := by
  induction parts generalizing text with
  | nil => simp
  | cons first rest ih =>
      obtain ⟨front, back, rfl, behind⟩ := h
      intro part member
      rcases List.mem_cons.mp member with rfl | member
      · exact ⟨front, back, rfl⟩
      · exact (ih behind part member).trans (List.suffix_append _ _).isInfix

end IndicatorDesigner.Script
