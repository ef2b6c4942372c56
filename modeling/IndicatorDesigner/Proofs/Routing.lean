import IndicatorDesigner.Log.Logger
import Mathlib.Data.List.Basic

/-!
Where messages of the log go. None of the marks is the start of another, so a message starts with at
most one of them. That one alone is removed, whatever stands behind it, and the rest is logged as if
its component had been given. A message whose component is given is logged in full.
-/
namespace IndicatorDesigner.Log

/-! Starts of a text -/

theorem starts_append (start rest : String) : start.toList <+: (start ++ rest).toList := by
  rw [String.toList_append]
  exact List.prefix_append _ _

theorem afterStart?_eq_some_iff {start text rest : String} :
    afterStart? start text = some rest ↔ text = start ++ rest := by
  constructor
  · intro found
    unfold afterStart? at found
    split at found
    · rename_i starts
      obtain ⟨behind, whole⟩ := List.isPrefixOf_iff_prefix.mp starts
      rw [← whole, ← String.length_toList, List.drop_left] at found
      rw [← Option.some.inj found, ← String.toList_inj, String.toList_append, String.toList_ofList,
        whole]
    · cases found
  · rintro rfl
    have starts := List.isPrefixOf_iff_prefix.mpr (starts_append start rest)
    rw [afterStart?, if_pos starts, String.toList_append, ← String.length_toList, List.drop_left,
      String.ofList_toList]

theorem afterStart?_eq_none_iff {start text : String} :
    afterStart? start text = none ↔ ¬start.toList <+: text.toList := by
  rw [← List.isPrefixOf_iff_prefix, afterStart?]
  split
  · rename_i starts
    simp [starts]
  · rename_i other
    simp [other]

/-- Neither of two texts starts with the other. -/
def Apart (s t : String) : Prop := ¬s.toList <+: t.toList ∧ ¬t.toList <+: s.toList

instance (s t : String) : Decidable (Apart s t) := inferInstanceAs (Decidable (_ ∧ _))

/-- No text starts with both. -/
theorem Apart.not_both {s t : String} {text : List Char} (apart : Apart s t)
    (starts : s.toList <+: text) : ¬t.toList <+: text := by
  intro also
  rcases List.prefix_or_prefix_of_prefix starts also with within | within
  · exact apart.1 within
  · exact apart.2 within

/-! Marks -/

theorem marks_apart : marks.Pairwise fun entry other => Apart entry.1 other.1 := by decide

theorem countP_marks_le (message : String) :
    marks.countP (fun entry => entry.1.toList.isPrefixOf message.toList) ≤ 1 := by
  have apart := marks_apart.filter fun entry => entry.1.toList.isPrefixOf message.toList
  have starts : ∀ entry ∈ marks.filter fun entry => entry.1.toList.isPrefixOf message.toList,
      entry.1.toList <+: message.toList := by
    intro entry member
    exact List.isPrefixOf_iff_prefix.mp (List.mem_filter.mp member).2
  rw [List.countP_eq_length_filter]
  generalize marks.filter _ = starting at apart starts
  match starting with
  | [] => exact Nat.zero_le 1
  | [_] => exact Nat.le_refl 1
  | entry :: other :: rest =>
      obtain ⟨first, _⟩ := List.pairwise_cons.mp apart
      have both := (first other List.mem_cons_self).not_both (starts entry List.mem_cons_self)
      exact absurd (starts other (List.mem_cons_of_mem _ List.mem_cons_self)) both

/-- The component of an entry and the rest of a message, if the message starts with its mark. -/
def routeBy (message : String) (entry : String × String) : Option (String × String) :=
  (afterStart? entry.1 message).map fun rest => (entry.2, rest)

theorem route_eq (message : String) :
    route message = (marks.findSome? (routeBy message)).getD ("app", message) := rfl

theorem routeBy_mark (entry : String × String) (rest : String) :
    routeBy (entry.1 ++ rest) entry = some (entry.2, rest) := by
  rw [routeBy, afterStart?_eq_some_iff.mpr rfl, Option.map_some]

theorem routeBy_eq_none {message : String} {entry : String × String}
    (other : ¬entry.1.toList <+: message.toList) : routeBy message entry = none := by
  rw [routeBy, afterStart?_eq_none_iff.mpr other, Option.map_none]

/-- In a table of marks that are apart, the mark at the start of a message is the one that is found,
wherever it stands in the table. -/
theorem findSome?_mark {table : List (String × String)}
    (apart : table.Pairwise fun entry other => Apart entry.1 other.1) {entry : String × String}
    (member : entry ∈ table) (rest : String) :
    table.findSome? (routeBy (entry.1 ++ rest)) = some (entry.2, rest) := by
  have starts := starts_append entry.1 rest
  induction table with
  | nil => cases member
  | cons other table ih =>
      obtain ⟨first, apart⟩ := List.pairwise_cons.mp apart
      rw [List.findSome?_cons]
      rcases List.mem_cons.mp member with rfl | member
      · rw [routeBy_mark]
      · have absent : ¬other.1.toList <+: (entry.1 ++ rest).toList :=
          fun also => (first entry member).not_both also starts
        rw [routeBy_eq_none absent]
        exact ih apart member

/-- Exactly one mark is removed: what stands behind it is not looked at. -/
theorem route_mark {entry : String × String} (member : entry ∈ marks) (rest : String) :
    route (entry.1 ++ rest) = (entry.2, rest) := by
  rw [route_eq, findSome?_mark marks_apart member rest, Option.getD_some]

theorem route_unmarked {message : String}
    (unmarked : ∀ entry ∈ marks, ¬entry.1.toList <+: message.toList) :
    route message = ("app", message) := by
  have absent : marks.findSome? (routeBy message) = none := by
    rw [List.findSome?_eq_none_iff]
    intro entry member
    exact routeBy_eq_none (unmarked entry member)
  rw [route_eq, absent, Option.getD_none]

/-! Lines -/

/-- The name of the logger that a message is given to, and the message as it is given. -/
def delivery (message : String) : Option String → String × String
  | some component => (Logger.name ++ "." ++ component, message)
  | none => (Logger.name ++ "." ++ (route message).1, (route message).2)

theorem write_eq (l : Logger) (time : String) (level : Level) (message : String)
    (component : Option String) :
    l.write time level message component =
      if Level.notset < level ∧ l.threshold ≤ level then
        some (line time (delivery message component).1 level (delivery message component).2 ++ "\n")
      else none := by
  cases component <;> rfl

/-- What is logged at a level of some name is the line of the delivery, or nothing. -/
theorem log_eq (l : Logger) (time : String) {levelName : String} {level : Level}
    (named : levelNamed levelName Level.info = .ok level) (message : String)
    (component : Option String) :
    l.log time message levelName component = .ok
      (if Level.notset < level ∧ l.threshold ≤ level then
        some (line time (delivery message component).1 level (delivery message component).2 ++ "\n")
      else none) := by
  simp only [Logger.log, named, write_eq]

/-- What is logged depends on the delivery only. -/
theorem log_congr (l : Logger) (time levelName : String) {message other : String}
    {component given : Option String} (same : delivery message component = delivery other given) :
    l.log time message levelName component = l.log time other levelName given := by
  simp only [Logger.log, write_eq, same]

/-- A message stands in its line as it is, between a head and a tail that do not depend on it. -/
theorem line_shows (time loggerName : String) (level : Level) :
    ∃ head tail, ∀ message, line time loggerName level message = head ++ message ++ tail := by
  let badge := badgeOf (componentOf loggerName)
  let head := dim ++ time ++ reset ++ " " ++ badge.colour ++ badge.label ++ reset ++ " "
  cases shown : background? level with
  | some background =>
      refine ⟨head ++ background ++ " ", " " ++ reset, ?_⟩
      intro message
      simp only [line, shown, head, badge, String.append_assoc]
  | none =>
      refine ⟨head, "", ?_⟩
      intro message
      simp only [line, shown, head, badge, String.append_empty]

/-- A way of logging that writes every message in full between one head and one tail, or no message
at all. -/
inductive InFull (logged : String → Except Fault (Option String)) : Prop
  | shown (head tail : String)
      (each : ∀ message, logged message = .ok (some (head ++ message ++ tail)))
  | silent (each : ∀ message, logged message = .ok none)
  | refused (fault : Fault) (each : ∀ message, logged message = .error fault)

theorem inFull_log (l : Logger) (time levelName component : String) :
    InFull fun message => l.log time message levelName (some component) := by
  cases named : levelNamed levelName Level.info with
  | error fault =>
      refine .refused .notLevel fun message => ?_
      simp only [Logger.log, named]
  | ok level =>
      by_cases written : Level.notset < level ∧ l.threshold ≤ level
      · obtain ⟨head, tail, shows⟩ := line_shows time (Logger.name ++ "." ++ component) level
        refine .shown head (tail ++ "\n") fun message => ?_
        simp only [log_eq l time named, if_pos written, delivery, shows]
        rw [String.append_assoc]
      · refine .silent fun message => ?_
        simp only [log_eq l time named, if_neg written]

/-- A message starts with at most one mark. Behind a mark the rest is logged as if the component of
the mark had been given, to the same logger and as the same line or none, even if the rest starts
with a mark itself or is empty. A message without a mark is one of the application. A message whose
component is given is never cut. What is logged is the line of the message as it is delivered, if
its level is high enough. -/
theorem mark_gives_component (l : Logger) (time levelName : String) :
    (∀ message : String,
      marks.countP (fun entry => entry.1.toList.isPrefixOf message.toList) ≤ 1) ∧
    (∀ entry ∈ marks, ∀ rest, delivery (entry.1 ++ rest) none = delivery rest (some entry.2) ∧
      l.log time (entry.1 ++ rest) levelName none = l.log time rest levelName (some entry.2)) ∧
    (∀ message : String, (∀ entry ∈ marks, ¬entry.1.toList <+: message.toList) →
      delivery message none = delivery message (some "app") ∧
      l.log time message levelName none = l.log time message levelName (some "app")) ∧
    (∀ component, InFull fun message => l.log time message levelName (some component)) ∧
    ∀ level, levelNamed levelName Level.info = .ok level → ∀ message component,
      l.log time message levelName component = .ok
        (if Level.notset < level ∧ l.threshold ≤ level then
          some (line time (delivery message component).1 level (delivery message component).2
            ++ "\n")
        else none) := by
  refine ⟨countP_marks_le, ?_, ?_, inFull_log l time levelName, fun _ => log_eq l time⟩
  · intro entry member rest
    have same : delivery (entry.1 ++ rest) none = delivery rest (some entry.2) := by
      simp only [delivery, route_mark member]
    exact ⟨same, log_congr l time levelName same⟩
  · intro message unmarked
    have same : delivery message none = delivery message (some "app") := by
      simp only [delivery, route_unmarked unmarked]
    exact ⟨same, log_congr l time levelName same⟩

/-- Of two marks the first is removed and the second shown; a mark without its blank is none. -/
theorem first_of_two_marks_gives_component :
    Logger.standard.log "03:04:05" "[API] [Cache] hit" "warning" none =
      Logger.standard.log "03:04:05" "[Cache] hit" "warning" (some "api") ∧
    Logger.standard.log "03:04:05" "[WS]" "INFO" none =
      Logger.standard.log "03:04:05" "[WS]" "INFO" (some "app") := by
  have ⟨_, marked, _⟩ := mark_gives_component Logger.standard "03:04:05" "warning"
  have ⟨_, _, unmarked, _⟩ := mark_gives_component Logger.standard "03:04:05" "INFO"
  exact ⟨(marked ("[API] ", "api") (by decide) "[Cache] hit").2, (unmarked "[WS]" (by decide)).2⟩

end IndicatorDesigner.Log
