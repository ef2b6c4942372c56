import IndicatorDesigner.Numeric.Numeral
import IndicatorDesigner.Text.Hexadecimal
import IndicatorDesigner.Text.Split
import IndicatorDesigner.Text.Utf8

/-!
The target of a request: a path, or a whole address with a path in it. Parts that stay in place or
go up are resolved, what follows the path is dropped, and escapes are undone, those in escapes too.
-/
namespace IndicatorDesigner.Http

structure Target where
  scheme : List Char
  user : List Char
  host : List Char
  hostPort : List Char
  path : List Char
  deriving DecidableEq, Repr

namespace Target

inductive Fault where
  | tooLong
  | controlCharacter (c : Char) (position : Nat)
  | badPort (hostPort : String)
  | doubleSlash
  | colon
  | unknownScheme (scheme : String)
  deriving DecidableEq, Repr

def Fault.message : Fault → String
  | .tooLong => "URL too long"
  | .controlCharacter c position =>
    "Invalid non-printable ASCII character in URL, " ++ Text.quoted (String.singleton c)
      ++ s!" at position {position}."
  | .badPort hostPort => "Invalid port: " ++ Text.quoted hostPort
  | .doubleSlash => "Relative URLs cannot have a path starting with '//'"
  | .colon => "Relative URLs cannot have a path starting with ':'"
  | .unknownScheme scheme => Text.quoted scheme

def maxLength : Nat := 65536

def isSchemeChar (c : Char) : Bool := c.isAlphanum || c == '+' || c == '.' || c == '-'

/-- A scheme before a colon, and what follows. Without a colon there is none. -/
def splitScheme (s : List Char) : List Char × List Char :=
  let name := s.takeWhile isSchemeChar
  match s.drop name.length with
  | ':' :: rest => if name.head?.all Char.isAlpha then (name, rest) else ([], s)
  | _ => ([], s)

/-- What stands between two slashes and the path, and what follows. -/
def splitAuthority : List Char → List Char × List Char
  | '/' :: '/' :: rest =>
    let authority := rest.takeWhile fun c => c != '/' && c != '?' && c != '#'
    (authority, rest.drop authority.length)
  | s => ([], s)

/-- A user before the last at sign, and what follows. -/
def splitUser (s : List Char) : List Char × List Char :=
  if s.contains '@' then
    let rest := (s.reverse.takeWhile (· != '@')).reverse
    (s.take (s.length - rest.length - 1), rest)
  else ([], s)

/-- A host, in brackets or up to a colon, and the number after it. -/
def splitPort (s : List Char) : List Char × List Char :=
  let host :=
    if s.head? = some '[' ∧ s.contains ']' then (s.reverse.dropWhile (· != ']')).reverse
    else s.takeWhile (· != ':')
  match s.drop host.length with
  | ':' :: hostPort => (host, hostPort)
  | hostPort => (host, hostPort)

def ofText (s : String) : Target :=
  let (scheme, rest) := splitScheme s.toList
  let (authority, rest) := splitAuthority rest
  let (user, address) := splitUser authority
  let (host, hostPort) := splitPort address
  { scheme, user, host, hostPort
    path := rest.takeWhile fun c => c != '?' && c != '#' }

/-- A path without the parts that stay in place, and without those that go up and what they undo.
Nothing is above the first slash. -/
def resolveDots (path : List Char) : List Char :=
  let step (done : List (List Char)) (part : List Char) : List (List Char) :=
    if part = ['.'] then done
    else if part = ['.', '.'] then (if done = [[]] then done else done.drop 1)
    else part :: done
  Text.join '/' ((Text.split '/' path).foldl step []).reverse

/-- Bytes with a percent sign and two hexadecimal digits as one byte. -/
def undoEscapes : List Nat → List Nat
  | 0x25 :: a :: b :: rest =>
    match Text.hexValue? (Char.ofNat a), Text.hexValue? (Char.ofNat b) with
    | some high, some low => (high * 16 + low) :: undoEscapes rest
    | _, _ => 0x25 :: undoEscapes (a :: b :: rest)
  | c :: rest => c :: undoEscapes rest
  | [] => []

def unescape (s : String) : String := Text.decodeUtf8Lossy (undoEscapes (Text.utf8Bytes s))

def pathSeen (path : List Char) : String :=
  let seen := unescape (unescape (String.ofList (resolveDots path)))
  if seen = "" then "/" else seen

def standardPorts : List (String × Int) :=
  [("ftp", 21), ("http", 80), ("https", 443), ("ws", 80), ("wss", 443)]

/-- The number that a target names behind its host, unless it is the one of its scheme. -/
def portOf? (t : Target) : Except Fault (Option Int) :=
  if t.hostPort = [] then .ok none
  else
    match Numeral.int (String.ofList t.hostPort) with
    | .ok n =>
      if standardPorts.contains (String.ofList t.scheme, n) then .ok none else .ok (some n)
    | .error _ => .error (.badPort (String.ofList t.hostPort))

/-- Whether a target tells where the service is, apart from its scheme. -/
def hasAuthority (t : Target) (hostPort : Option Int) : Bool :=
  t.user != [] || t.host != [] || hostPort.isSome

def knownSchemes : List String := ["http", "https", "ws", "wss"]

/-- The path of a target. One that is not a whole address is taken from the top of the service. -/
def seen (t : Target) : Except Fault String := do
  let hostPort ← t.portOf?
  let placed := t.scheme != [] || t.hasAuthority hostPort
  if !placed && ['/', '/'].isPrefixOf t.path then .error .doubleSlash
  else if !placed && t.path.head? == some ':' then .error .colon
  else if t.scheme = [] ∨ t.host = [] then
    let path := if placed then resolveDots t.path else t.path
    .ok (pathSeen ('/' :: path.dropWhile (· == '/')))
  else
    let scheme := String.ofList (t.scheme.map Char.toLower)
    if knownSchemes.contains scheme || hostPort.isSome then .ok (pathSeen t.path)
    else .error (.unknownScheme scheme)

def isControl (c : Char) : Bool := c.toNat < 0x20 || c.toNat == 0x7f

def read (s : String) : Except Fault String :=
  if maxLength < s.length then .error .tooLong
  else
    match s.toList.find? isControl with
    | some c => .error (.controlCharacter c (s.toList.findIdx isControl))
    | none => (ofText s).seen

example : resolveDots ['/', 'a', '/', '.', '/', '.', '.', '/', 'b'] = ['/', 'b'] := by decide

end Target
end IndicatorDesigner.Http
