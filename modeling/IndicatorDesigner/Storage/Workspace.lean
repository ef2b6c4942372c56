import IndicatorDesigner.Storage.Path
import IndicatorDesigner.Text.Quoted

/-!
The files that a program has written or found, by the directories they stand in. Writing a file
makes the directories above it; what stands in the way is reported and left as it is. There are no
links.
-/
namespace IndicatorDesigner

/-- Why a directory takes no new names: there cannot be others, it belongs to the system, it is not
the user's, or it is only to be read. -/
inductive Refusal where
  | noEntry
  | notPermitted
  | denied
  | readOnly
  deriving DecidableEq, Repr

def Refusal.forFile : Refusal → String
  | .noEntry => "[Errno 2] No such file or directory"
  | .notPermitted | .denied => "[Errno 13] Permission denied"
  | .readOnly => "[Errno 30] Read-only file system"

def Refusal.forDirectory : Refusal → String
  | .notPermitted => "[Errno 1] Operation not permitted"
  | refusal => refusal.forFile

inductive StorageFault where
  | fileExists (path : Path)
  | isDirectory (path : Path)
  | notDirectory (path : Path)
  | nameTooLong (path : Path)
  | fileRefused (refusal : Refusal) (path : Path)
  | directoryRefused (refusal : Refusal) (path : Path)
  | noSpace
  | nullCharacter
  | tooDeep
  deriving DecidableEq, Repr

def StorageFault.message : StorageFault → String
  | .fileExists path => "[Errno 17] File exists: " ++ Text.quoted path.toText
  | .isDirectory path => "[Errno 21] Is a directory: " ++ Text.quoted path.toText
  | .notDirectory path => "[Errno 20] Not a directory: " ++ Text.quoted path.toText
  | .nameTooLong path => "[Errno 36] File name too long: " ++ Text.quoted path.toText
  | .fileRefused refusal path => refusal.forFile ++ ": " ++ Text.quoted path.toText
  | .directoryRefused refusal path => refusal.forDirectory ++ ": " ++ Text.quoted path.toText
  | .noSpace => "[Errno 28] No space left on device"
  | .nullCharacter => "embedded null byte"
  | .tooDeep => "maximum recursion depth exceeded while calling a Python object"

/-- A directory: the root, one some steps above where the program runs, or one below these, by
number. -/
inductive Directory where
  | root
  | above (steps : Nat)
  | made (number : Nat)
  deriving DecidableEq, Repr

/-- A file that keeps no text: it drops what is written to it, shows it on the standard output or on
the error output, or has no room for it. -/
inductive Device where
  | null
  | output
  | errors
  | full
  deriving DecidableEq, Repr

/-- What stands under a name. A guarded file is only to be read. -/
inductive Content where
  | file (text : String)
  | guarded (text : String)
  | device (device : Device)
  | directory (number : Nat)
  deriving DecidableEq, Repr

def Content.text? : Content → Option String
  | .file text | .guarded text => some text
  | .device _ | .directory _ => none

structure Entry where
  parent : Directory
  name : String
  content : Content
  deriving Repr

/-- All names in all directories, the latest first, and the directories that take no others. -/
structure Workspace where
  entries : List Entry
  closed : List (Directory × Refusal)
  deriving Repr

/-- What devices show of the texts that are written to them. -/
structure Shown where
  output : String
  errors : String
  deriving DecidableEq, Repr

def Shown.nothing : Shown := ⟨"", ""⟩

def Shown.append (s t : Shown) : Shown := ⟨s.output ++ t.output, s.errors ++ t.errors⟩

def Device.take (text : String) : Device → Except StorageFault Shown
  | .null => .ok .nothing
  | .output => .ok ⟨text, ""⟩
  | .errors => .ok ⟨"", text⟩
  | .full => .error .noSpace

namespace Workspace

def maxNameBytes : Nat := 255

def maxPathBytes : Nat := 4095

/-- The most directories that are made at once. -/
def maxMissing : Nat := 988

def entryOf? (w : Workspace) (number : Nat) : Option Entry :=
  w.entries.find? fun e => e.content == .directory number

/-- The directory above another one; nothing is above a root. -/
def above (w : Workspace) : Directory → Directory
  | .root => .root
  | .above steps => .above (steps + 1)
  | .made number =>
    match w.entryOf? number with
    | some e => e.parent
    | none => .made number

def content? (w : Workspace) (d : Directory) (name : String) : Option Content :=
  (w.entries.find? fun e => e.parent == d && e.name == name).map (·.content)

def refusal? (w : Workspace) (d : Directory) : Option Refusal := w.closed.lookup d

def add (w : Workspace) (d : Directory) (name : String) (content : Content) : Workspace :=
  { w with entries := ⟨d, name, content⟩ :: w.entries }

/-- The workspace with one more directory, whose number it gives. -/
def makeDirectory (w : Workspace) (d : Directory) (name : String) : Workspace × Nat :=
  (w.add d name (.directory w.entries.length), w.entries.length)

def putFile (w : Workspace) (d : Directory) (name text : String) : Workspace :=
  if (w.content? d name).isSome then
    { w with
      entries := w.entries.map fun e =>
        if e.parent == d && e.name == name then ⟨d, name, .file text⟩ else e }
  else w.add d name (.file text)

def systemDirectories : List String :=
  ["bin", "boot", "dev", "etc", "home", "lib", "media", "mnt", "opt", "proc", "root", "run", "sbin",
   "srv", "sys", "tmp", "usr", "var"]

def systemFiles : List (String × String × Content) :=
  [("dev", "null", .device .null), ("dev", "zero", .device .null), ("dev", "full", .device .full),
   ("dev", "random", .device .null), ("dev", "urandom", .device .null),
   ("dev", "stdout", .device .output), ("dev", "stderr", .device .errors),
   ("etc", "passwd", .file "")]

/-- The directories in which only the system itself makes names. -/
def systemOwned : List (String × Refusal) := [("proc", .noEntry), ("sys", .notPermitted)]

def empty : Workspace :=
  let w := systemDirectories.foldl (fun w name => (w.makeDirectory .root name).1) ⟨[], []⟩
  let w := systemOwned.foldl (fun w (name, refusal) =>
    match w.content? .root name with
    | some (.directory number) => { w with closed := (.made number, refusal) :: w.closed }
    | _ => w) w
  systemFiles.foldl (fun w (directory, name, content) =>
    match w.content? .root directory with
    | some (.directory number) => w.add (.made number) name content
    | _ => w) w

/-- A path that may be looked up: it has no null character and is not too long. -/
def check (path : Path) : Except StorageFault Unit :=
  if path.toText.toList.contains '\x00' then .error .nullCharacter
  else if maxPathBytes < path.toText.utf8ByteSize then .error (.nameTooLong path)
  else .ok ()

def cut (full : Path) (done : List String) (part : String) : Path :=
  { full with parts := (part :: done).reverse }

/-- Follows the parts of a path from a directory and makes what is missing. The parts behind are
given last first. An obstacle is reported for the whole path until a directory is made, and then for
the path up to there. -/
def descend (full : Path) (making : Bool) (done : List String) (w : Workspace) (d : Directory) :
    List String → Except StorageFault (Workspace × Directory)
  | [] => .ok (w, d)
  | part :: rest =>
    if part = ".." then descend full making (part :: done) w (w.above d) rest
    else if maxNameBytes < part.utf8ByteSize then
      .error (.nameTooLong (if making then cut full done part else full))
    else
      match w.content? d part with
      | some (.directory number) => descend full making (part :: done) w (.made number) rest
      | some _ =>
        if making || rest.isEmpty then .error (.fileExists (cut full done part))
        else .error (.notDirectory full)
      | none =>
        if !making && maxMissing ≤ rest.length then .error .tooDeep
        else
          match w.refusal? d with
          | some refusal => .error (.directoryRefused refusal (cut full done part))
          | none =>
            match w.makeDirectory d part with
            | (w, number) => descend full true (part :: done) w (.made number) rest

def makeAll (w : Workspace) (path : Path) : Except StorageFault (Workspace × Directory) := do
  check path
  descend path false [] w (if path.root = "" then .above 0 else .root) path.parts

/-- Writes a text to a name in a directory; the path is the one that is reported. Gives what a
device shows of the text, too. -/
def writeIn (w : Workspace) (d : Directory) (path : Path) (name text : String) :
    Except StorageFault (Workspace × Shown) :=
  if name = ".." then .error (.isDirectory path)
  else if maxNameBytes < name.utf8ByteSize then .error (.nameTooLong path)
  else
    match w.content? d name, w.refusal? d with
    | some (.directory _), _ => .error (.isDirectory path)
    | some (.device device), _ => (device.take text).map fun shown => (w, shown)
    | some (.guarded _), _ => .error (.fileRefused .denied path)
    | none, some refusal => .error (.fileRefused refusal path)
    | _, _ => .ok (w.putFile d name text, .nothing)

def write (w : Workspace) (path : Path) (text : String) :
    Except StorageFault (Workspace × Shown) := do
  let (w, d) ← w.makeAll path.parent
  check path
  match path.parts.getLast? with
  | none => .error (.isDirectory path)
  | some name => w.writeIn d path name text

/-- The names that lead to a directory from where the program runs, before those already known. Each
step needs fuel. -/
def namesTo? (w : Workspace) : Nat → Directory → List String → Option (List String)
  | _, .root, _ => none
  | _, .above steps, names => if steps = 0 then some names else none
  | 0, .made _, _ => none
  | fuel + 1, .made number, names =>
    match w.entryOf? number with
    | some e => namesTo? w fuel e.parent (e.name :: names)
    | none => none

/-- The path of an entry below the place where the program runs, with its text if it is a file. -/
def listed? (w : Workspace) (e : Entry) : Option (String × String) :=
  e.content.text?.bind fun text =>
    (w.namesTo? w.entries.length e.parent [e.name]).map fun names => ("/".intercalate names, text)

def listing (w : Workspace) : List (String × String) := w.entries.reverse.filterMap w.listed?

end Workspace
end IndicatorDesigner
