import IndicatorDesigner.Proofs.Outcome
import IndicatorDesigner.Storage.Workspace
import Mathlib.Data.List.Pairwise

/-!
Files are read back as they were written. A write that succeeds leaves its text under its path, or
hands it to the device that stands there. It keeps every directory and device, every file that is
only to be read, and every file that holds the same text already.
-/
namespace IndicatorDesigner

/-- Where the parts of a path are followed from. -/
def Path.start (path : Path) : Directory := if path.root = "" then .above 0 else .root

namespace Workspace

/-- The directory that parts lead to from another one. -/
def follow (w : Workspace) : Directory → List String → Option Directory
  | d, [] => some d
  | d, part :: rest =>
    if part = ".." then w.follow (w.above d) rest
    else
      match w.content? d part with
      | some (.directory number) => w.follow (.made number) rest
      | _ => none

/-- What stands under a path. -/
def stands? (w : Workspace) (path : Path) : Option Content :=
  match path.parts.getLast?, w.follow path.start path.parent.parts with
  | some name, some d => if name = ".." then none else w.content? d name
  | _, _ => none

/-- The text of the file under a path. -/
def text? (w : Workspace) (path : Path) : Option String := (w.stands? path).bind Content.text?

def device? (w : Workspace) (path : Path) : Option Device :=
  match w.stands? path with
  | some (.device device) => some device
  | _ => none

/-- A directory whose number was given already. -/
def Knows (w : Workspace) : Directory → Prop
  | .made number => number < w.entries.length
  | _ => True

/-- Numbers are given once and in order, and no name stands twice in a directory. -/
structure Sound (w : Workspace) : Prop where
  parent : ∀ e ∈ w.entries, w.Knows e.parent
  number : ∀ e ∈ w.entries, ∀ number, e.content = .directory number → number < w.entries.length
  names : w.entries.Pairwise fun a b => ¬(a.parent = b.parent ∧ a.name = b.name)

/-- The same devices stand under the same names. -/
def SameDevices (w later : Workspace) : Prop :=
  ∀ d name device,
    later.content? d name = some (.device device) ↔ w.content? d name = some (.device device)

/-- What a workspace still has of another one when a text was written: all but the files with other
texts that may be written. No device is new in it. -/
structure Keeps (text : String) (w later : Workspace) : Prop where
  length : w.entries.length ≤ later.entries.length
  entry : ∀ number < w.entries.length, later.entryOf? number = w.entryOf? number
  content : ∀ d name content, w.content? d name = some content →
    (∀ other, content = .file other → other = text) → later.content? d name = some content
  device : ∀ d name device, later.content? d name = some (.device device) →
    w.content? d name = some (.device device)

/-- What becomes of a text that is written: it stands in a file, or a device takes it. -/
inductive Received (later : Workspace) (path : Path) (text : String) : Shown → Prop
  | file (reads : later.text? path = some text) : Received later path text .nothing
  | device {device : Device} {shown : Shown} (stands : later.device? path = some device)
      (taken : device.take text = .ok shown) : Received later path text shown

variable {w later last : Workspace} {d : Directory} {name text : String}

theorem follow_above (w : Workspace) (d : Directory) (rest : List String) :
    w.follow d (".." :: rest) = w.follow (w.above d) rest := by
  rw [follow, if_pos rfl]

theorem follow_into (h : name ≠ "..") {number : Nat}
    (found : w.content? d name = some (.directory number)) (rest : List String) :
    w.follow d (name :: rest) = w.follow (.made number) rest := by
  rw [follow, if_neg h, found]

theorem stands?_eq_some_iff {path : Path} {content : Content} : w.stands? path = some content ↔
    ∃ name d, path.parts.getLast? = some name ∧ name ≠ ".." ∧
      w.follow path.start path.parent.parts = some d ∧ w.content? d name = some content := by
  unfold stands?
  constructor
  · intro h
    split at h
    · rename_i name d last target
      split at h
      · cases h
      · rename_i plain
        exact ⟨name, d, last, plain, target, h⟩
    · cases h
  · rintro ⟨name, d, last, plain, target, found⟩
    simp only [last, target, found, plain, if_false]

theorem text?_eq_some_iff {path : Path} : w.text? path = some text ↔
    ∃ content, w.stands? path = some content ∧ content.text? = some text :=
  Option.bind_eq_some_iff

theorem device?_eq_some_iff {path : Path} {device : Device} :
    w.device? path = some device ↔ w.stands? path = some (.device device) := by
  unfold device?
  split <;> simp_all

section Entries

theorem exists_entry_of_content? {content : Content} (h : w.content? d name = some content) :
    ⟨d, name, content⟩ ∈ w.entries := by
  obtain ⟨e, found, rfl⟩ := Option.map_eq_some_iff.mp h
  have same := List.find?_some found
  simp only [Bool.and_eq_true, beq_iff_eq] at same
  obtain ⟨rfl, rfl⟩ := same
  exact List.mem_of_find?_eq_some found

theorem Sound.content?_of_mem (sound : w.Sound) {e : Entry} (member : e ∈ w.entries) :
    w.content? e.parent e.name = some e.content := by
  rw [content?]
  cases found : w.entries.find? fun a => a.parent == e.parent && a.name == e.name with
  | none => exact absurd (List.find?_eq_none.mp found e member) (by simp)
  | some a =>
      have same := List.find?_some found
      simp only [Bool.and_eq_true, beq_iff_eq] at same
      have symmetric : Std.Symm fun a b : Entry => ¬(a.parent = b.parent ∧ a.name = b.name) :=
        ⟨fun a b differ same => differ ⟨same.1.symm, same.2.symm⟩⟩
      by_cases equal : a = e
      · rw [equal]
        rfl
      · exact absurd same (sound.names.forall (List.mem_of_find?_eq_some found) member equal)

theorem Sound.knows_directory (sound : w.Sound) {number : Nat}
    (h : w.content? d name = some (.directory number)) : w.Knows (.made number) :=
  sound.number _ (exists_entry_of_content? h) number rfl

theorem Sound.knows_above (sound : w.Sound) (known : w.Knows d) : w.Knows (w.above d) := by
  cases d with
  | root => trivial
  | above steps => trivial
  | made number =>
      rw [above]
      cases found : w.entryOf? number with
      | none => exact known
      | some e => exact sound.parent e (List.mem_of_find?_eq_some found)

end Entries

theorem knows_start (w : Workspace) (path : Path) : w.Knows path.start := by
  rw [Path.start]
  split <;> trivial

namespace Received

variable {path : Path} {shown : Shown}

theorem text?_eq (h : w.Received path text shown) (noDevice : w.device? path = none) :
    w.text? path = some text := by
  cases h with
  | file reads => exact reads
  | device stands taken =>
      rw [stands] at noDevice
      cases noDevice

/-- Only the standard output itself shows anything there. -/
theorem output_eq (h : w.Received path text shown) (other : w.device? path ≠ some .output) :
    shown.output = "" := by
  cases h with
  | file reads => rfl
  | @device device _ stands taken =>
      cases device with
      | output => exact absurd stands other
      | null | errors => cases taken; rfl
      | full => cases taken

end Received

namespace Keeps

theorem refl (text : String) (w : Workspace) : Keeps text w w :=
  ⟨Nat.le_refl _, fun _ _ => rfl, fun _ _ _ h _ => h, fun _ _ _ h => h⟩

theorem trans (first : Keeps text w later) (second : Keeps text later last) :
    Keeps text w last where
  length := Nat.le_trans first.length second.length
  entry number h := (second.entry number (Nat.lt_of_lt_of_le h first.length)).trans
    (first.entry number h)
  content d name content h same :=
    second.content d name content (first.content d name content h same) same
  device d name device h := first.device d name device (second.device d name device h)

theorem sameDevices (k : Keeps text w later) : w.SameDevices later :=
  fun d name device => ⟨k.device d name device, fun h => k.content d name _ h nofun⟩

theorem directory (k : Keeps text w later) {number : Nat}
    (found : w.content? d name = some (.directory number)) :
    later.content? d name = some (.directory number) :=
  k.content d name _ found nofun

theorem knows (k : Keeps text w later) (known : w.Knows d) : later.Knows d := by
  cases d with
  | made number => exact Nat.lt_of_lt_of_le known k.length
  | root | above => trivial

theorem above_eq (k : Keeps text w later) (known : w.Knows d) : later.above d = w.above d := by
  cases d with
  | made number => rw [above, above, k.entry number known]
  | root | above => rfl

theorem follow_eq (k : Keeps text w later) (sound : w.Sound) (known : w.Knows d)
    {parts : List String} {target : Directory} (h : w.follow d parts = some target) :
    later.follow d parts = some target := by
  induction parts generalizing d with
  | nil => exact h
  | cons part rest ih =>
      by_cases up : part = ".."
      · subst up
        rw [follow_above] at h ⊢
        rw [k.above_eq known]
        exact ih (sound.knows_above known) h
      · rw [follow, if_neg up] at h
        split at h
        · rename_i number found
          rw [follow_into up (k.directory found)]
          exact ih (sound.knows_directory found) h
        · cases h

theorem stands?_eq (k : Keeps text w later) (sound : w.Sound) {path : Path} {content : Content}
    (h : w.stands? path = some content) (same : ∀ other, content = .file other → other = text) :
    later.stands? path = some content := by
  obtain ⟨name, d, last, plain, target, found⟩ := stands?_eq_some_iff.mp h
  exact stands?_eq_some_iff.mpr ⟨name, d, last, plain,
    k.follow_eq sound (knows_start w path) target, k.content d name content found same⟩

/-- A text that a file or a device received stays there. -/
theorem received (k : Keeps text w later) (sound : w.Sound) {path : Path} {shown : Shown}
    (h : w.Received path text shown) : later.Received path text shown := by
  cases h with
  | file reads =>
      obtain ⟨content, stands, reads⟩ := text?_eq_some_iff.mp reads
      refine .file (text?_eq_some_iff.mpr ⟨content, k.stands?_eq sound stands ?_, reads⟩)
      rintro other rfl
      exact Option.some.inj reads
  | device stands taken =>
      have remains := k.stands?_eq sound (device?_eq_some_iff.mp stands) nofun
      exact .device (device?_eq_some_iff.mpr remains) taken

end Keeps

section Making

theorem content?_makeDirectory (w : Workspace) (d e : Directory) (name other : String) :
    (w.makeDirectory d name).1.content? e other =
      if d = e ∧ name = other then some (.directory w.entries.length) else w.content? e other := by
  by_cases h : d = e ∧ name = other
  · simp [content?, makeDirectory, add, h]
  · rw [if_neg h]
    simp only [content?, makeDirectory, add, List.find?_cons]
    rw [show (d == e && name == other) = false by simpa using h]

theorem entryOf?_makeDirectory (w : Workspace) (d : Directory) (name : String) {number : Nat}
    (h : number < w.entries.length) :
    (w.makeDirectory d name).1.entryOf? number = w.entryOf? number := by
  have other : (Content.directory w.entries.length == Content.directory number) = false := by
    simpa using Nat.ne_of_gt h
  simp only [entryOf?, makeDirectory, add, List.find?_cons, other]

theorem keeps_makeDirectory (text : String) (free : w.content? d name = none) :
    Keeps text w (w.makeDirectory d name).1 where
  length := Nat.le_succ _
  entry number h := entryOf?_makeDirectory w d name h
  content e other content found _ := by
    rw [content?_makeDirectory, if_neg, found]
    rintro ⟨rfl, rfl⟩
    rw [free] at found
    cases found
  device e other device found := by
    rw [content?_makeDirectory] at found
    split at found
    · cases found
    · exact found

theorem apart_of_free (free : w.content? d name = none) :
    ∀ e ∈ w.entries, ¬(d = e.parent ∧ name = e.name) := by
  rw [content?, Option.map_eq_none_iff, List.find?_eq_none] at free
  rintro e member ⟨rfl, rfl⟩
  exact free e member (by simp)

theorem Sound.makeDirectory (sound : w.Sound) (known : w.Knows d)
    (free : w.content? d name = none) : (w.makeDirectory d name).1.Sound where
  parent e member := by
    refine (keeps_makeDirectory "" free).knows ?_
    rcases List.mem_cons.mp member with rfl | member
    · exact known
    · exact sound.parent e member
  number e member number is := by
    rcases List.mem_cons.mp member with rfl | member
    · cases is
      exact Nat.lt_succ_self _
    · exact Nat.lt_succ_of_lt (sound.number e member number is)
  names := .cons (apart_of_free free) sound.names

end Making

section Putting

/-- A search that neither finds nor loses what is replaced finds the same. -/
theorem find?_map_of_alike {α : Type} {p : α → Bool} {f : α → α} {l : List α}
    (alike : ∀ a ∈ l, f a = a ∨ p a = false ∧ p (f a) = false) : (l.map f).find? p = l.find? p := by
  induction l with
  | nil => rfl
  | cons a rest ih =>
      obtain ⟨first, others⟩ := List.forall_mem_cons.mp alike
      rw [List.map_cons, List.find?_cons, List.find?_cons, ih others]
      rcases first with same | ⟨before, after⟩
      · rw [same]
      · rw [before, after]

theorem length_putFile (w : Workspace) (d : Directory) (name text : String) :
    w.entries.length ≤ (w.putFile d name text).entries.length := by
  rw [putFile]
  split
  · exact Nat.le_of_eq (List.length_map _).symm
  · exact Nat.le_succ _

theorem content?_putFile_self (w : Workspace) (d : Directory) (name text : String) :
    (w.putFile d name text).content? d name = some (.file text) := by
  rw [putFile]
  split
  · rename_i there
    have searched : (fun e : Entry => e.parent == d && e.name == name) ∘ (fun e : Entry =>
        if e.parent == d && e.name == name then ⟨d, name, .file text⟩ else e) =
          fun e => e.parent == d && e.name == name := by
      funext e
      by_cases h : e.parent = d ∧ e.name = name <;> simp [h]
    rw [content?, Option.isSome_map] at there
    obtain ⟨e, found⟩ := Option.isSome_iff_exists.mp there
    have same := List.find?_some found
    rw [content?, List.find?_map, searched, found]
    simp only [Option.map_some, same, if_true]
  · simp [content?, add]

theorem content?_putFile_other {e : Directory} {other : String} (h : ¬(d = e ∧ name = other)) :
    (w.putFile d name text).content? e other = w.content? e other := by
  have apart : (d == e && name == other) = false := by simpa using h
  rw [putFile]
  split
  · refine congrArg (Option.map Entry.content) (find?_map_of_alike fun a member => ?_)
    split
    · rename_i same
      simp only [Bool.and_eq_true, beq_iff_eq] at same
      rw [same.1, same.2]
      exact .inr ⟨apart, apart⟩
    · exact .inl rfl
  · simp only [content?, add, List.find?_cons, apart]

theorem mem_putFile {e : Entry} (h : e ∈ (w.putFile d name text).entries) :
    e = ⟨d, name, .file text⟩ ∨ e ∈ w.entries := by
  rw [putFile] at h
  split at h
  · obtain ⟨a, member, rfl⟩ := List.mem_map.mp h
    split
    · exact .inl rfl
    · exact .inr member
  · exact List.mem_cons.mp h

/-- Only a file is replaced, so directories stay where they are. -/
theorem entryOf?_putFile (sound : w.Sound)
    (free : ∀ content, w.content? d name = some content → ∃ old, content = .file old)
    (number : Nat) : (w.putFile d name text).entryOf? number = w.entryOf? number := by
  rw [putFile]
  split
  · refine find?_map_of_alike fun a member => ?_
    split
    · rename_i same
      simp only [Bool.and_eq_true, beq_iff_eq] at same
      have stands := sound.content?_of_mem member
      rw [same.1, same.2] at stands
      obtain ⟨old, is⟩ := free _ stands
      exact .inr ⟨by simp [is], by simp⟩
    · exact .inl rfl
  · simp [entryOf?, add]

theorem Sound.putFile (sound : w.Sound) (known : w.Knows d) (name text : String) :
    (w.putFile d name text).Sound where
  parent e member := by
    have later {e : Directory} (h : w.Knows e) : (w.putFile d name text).Knows e := by
      cases e with
      | made number => exact Nat.lt_of_lt_of_le h (length_putFile w d name text)
      | root | above => trivial
    rcases mem_putFile member with rfl | member
    · exact later known
    · exact later (sound.parent e member)
  number e member number is := by
    rcases mem_putFile member with rfl | member
    · cases is
    · exact Nat.lt_of_lt_of_le (sound.number e member number is) (length_putFile w d name text)
  names := by
    rw [Workspace.putFile]
    split
    · rw [List.pairwise_map]
      have kept (e : Entry) : (if e.parent == d && e.name == name then
            (⟨d, name, .file text⟩ : Entry) else e).parent = e.parent ∧
          (if e.parent == d && e.name == name then
            (⟨d, name, .file text⟩ : Entry) else e).name = e.name := by
        split
        · rename_i same
          simp only [Bool.and_eq_true, beq_iff_eq] at same
          exact ⟨same.1.symm, same.2.symm⟩
        · exact ⟨rfl, rfl⟩
      refine sound.names.imp fun {a b} differ => ?_
      rw [(kept a).1, (kept a).2, (kept b).1, (kept b).2]
      exact differ
    · rename_i free
      exact .cons (apart_of_free (by simpa using free)) sound.names

end Putting

theorem keeps_putFile (sound : w.Sound)
    (free : ∀ content, w.content? d name = some content → ∃ old, content = .file old)
    (text : String) : Keeps text w (w.putFile d name text) where
  length := length_putFile w d name text
  entry number _ := entryOf?_putFile sound free number
  content e other content found same := by
    by_cases h : d = e ∧ name = other
    · obtain ⟨rfl, rfl⟩ := h
      obtain ⟨old, rfl⟩ := free content found
      rw [same old rfl]
      exact content?_putFile_self w d name text
    · rw [content?_putFile_other h, found]
  device e other device found := by
    by_cases h : d = e ∧ name = other
    · obtain ⟨rfl, rfl⟩ := h
      rw [content?_putFile_self] at found
      cases found
    · rw [← content?_putFile_other h, found]

/-- Following parts finds the directories that are there and makes the others. -/
theorem descend_spec {full : Path} {making : Bool} {done parts : List String} {target : Directory}
    (sound : w.Sound) (known : w.Knows d)
    (h : descend full making done w d parts = .ok (later, target)) (text : String) :
    later.Sound ∧ later.Knows target ∧ Keeps text w later ∧ later.follow d parts = some target := by
  induction parts generalizing making done w d with
  | nil =>
      cases h
      exact ⟨sound, known, .refl text _, rfl⟩
  | cons part rest ih =>
      rw [descend] at h
      split at h
      · rename_i up
        subst up
        obtain ⟨after, reached, keeps, led⟩ := ih sound (sound.knows_above known) h
        refine ⟨after, reached, keeps, ?_⟩
        rw [follow_above, keeps.above_eq known]
        exact led
      · rename_i plain
        split at h
        · cases h
        · split at h
          · rename_i number found
            obtain ⟨after, reached, keeps, led⟩ := ih sound (sound.knows_directory found) h
            have into := follow_into plain (keeps.directory found) rest
            exact ⟨after, reached, keeps, into.trans led⟩
          · split at h <;> cases h
          · rename_i free
            split at h
            · cases h
            · split at h
              · cases h
              · have made := sound.makeDirectory known free
                have found : (w.makeDirectory d part).1.content? d part =
                    some (.directory w.entries.length) := by
                  rw [content?_makeDirectory, if_pos ⟨rfl, rfl⟩]
                obtain ⟨after, reached, keeps, led⟩ := ih made (made.knows_directory found) h
                exact ⟨after, reached, (keeps_makeDirectory text free).trans keeps,
                  (follow_into plain (keeps.directory found) rest).trans led⟩

/-- A file in a directory receives the text, unless a device stands there and takes it. -/
theorem writeIn_spec {path : Path} {shown : Shown} (sound : w.Sound) (known : w.Knows d)
    (h : w.writeIn d path name text = .ok (later, shown)) :
    later.Sound ∧ Keeps text w later ∧ name ≠ ".." ∧
      (later.content? d name = some (.file text) ∧ shown = .nothing ∨
        ∃ device, later.content? d name = some (.device device) ∧
          device.take text = .ok shown) := by
  rw [writeIn] at h
  split at h
  · cases h
  · rename_i plain
    split at h
    · cases h
    · split at h
      · cases h
      · rename_i device found
        cases taken : device.take text with
        | error fault =>
            rw [taken] at h
            cases h
        | ok given =>
            rw [taken] at h
            cases h
            exact ⟨sound, .refl text _, plain, .inr ⟨device, found, taken⟩⟩
      · cases h
      · cases h
      · rename_i noDirectory noDevice noGuard _
        cases h
        have free : ∀ content, w.content? d name = some content → ∃ old, content = .file old := by
          intro content found
          cases content with
          | file old => exact ⟨old, rfl⟩
          | guarded old => exact absurd found (noGuard old)
          | device device => exact absurd found (noDevice device)
          | directory number => exact absurd found (noDirectory number)
        exact ⟨sound.putFile known name text, keeps_putFile sound free text, plain,
          .inl ⟨content?_putFile_self w d name text, rfl⟩⟩

/-- A text that was written is received, and what received it before still has it. -/
theorem write_spec {path : Path} {shown : Shown} (sound : w.Sound)
    (h : w.write path text = .ok (later, shown)) :
    later.Sound ∧ Keeps text w later ∧ later.Received path text shown := by
  obtain ⟨⟨middle, d⟩, made, h⟩ := ok_of_bind h
  obtain ⟨_, _, made⟩ := ok_of_bind made
  obtain ⟨_, _, h⟩ := ok_of_bind h
  obtain ⟨soundMiddle, known, keepsMiddle, led⟩ :=
    descend_spec sound (knows_start w path) made text
  split at h
  · cases h
  · rename_i name last
    obtain ⟨after, keeps, plain, received⟩ := writeIn_spec soundMiddle known h
    have stands {content : Content} (found : later.content? d name = some content) :
        later.stands? path = some content :=
      stands?_eq_some_iff.mpr ⟨name, d, last, plain,
        keeps.follow_eq soundMiddle (knows_start middle path) led, found⟩
    refine ⟨after, keepsMiddle.trans keeps, ?_⟩
    rcases received with ⟨found, rfl⟩ | ⟨device, found, taken⟩
    · exact .file (text?_eq_some_iff.mpr ⟨_, stands found, rfl⟩)
    · exact .device (device?_eq_some_iff.mpr (stands found)) taken

instance (w : Workspace) (d : Directory) : Decidable (w.Knows d) :=
  match d with
  | .root | .above _ => .isTrue trivial
  | .made number => inferInstanceAs (Decidable (number < w.entries.length))

theorem sound_empty : empty.Sound where
  parent := by decide
  number e member number is := by
    have inOrder : ∀ e ∈ empty.entries, e.content ∈ systemFiles.map (·.2.2) ∨
        ∃ number < empty.entries.length, e.content = .directory number := by decide
    rcases inOrder e member with file | ⟨given, bound, directory⟩
    · simp [is, systemFiles] at file
    · rw [directory] at is
      cases is
      exact bound
  names := by decide

end Workspace
end IndicatorDesigner
