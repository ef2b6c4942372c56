import IndicatorDesigner.Text.Split

/-! Paths in their plain form: without empty parts and without parts that stay in place. -/
namespace IndicatorDesigner

/-- A path. Its root is empty for a relative one, else one slash or exactly two. -/
structure Path where
  root : String
  parts : List String
  deriving DecidableEq, Repr

namespace Path

/-- The root of a path: exactly two slashes are kept, more are one. -/
def rootOf : List Char → String
  | '/' :: '/' :: '/' :: _ => "/"
  | '/' :: '/' :: _ => "//"
  | '/' :: _ => "/"
  | _ => ""

def ofText (s : String) : Path :=
  { root := rootOf s.toList
    parts := ((Text.split '/' s.toList).map String.ofList).filter fun part =>
      part != "" && part != "." }

/-- The text of a path; the empty one is a dot. -/
def toText (p : Path) : String :=
  if p.root = "" ∧ p.parts = [] then "." else p.root ++ "/".intercalate p.parts

def parent (p : Path) : Path := { p with parts := p.parts.dropLast }

def child (p : Path) (name : String) : Path := { p with parts := p.parts ++ [name] }

example : (ofText "rel//a/./b/").toText = "rel/a/b" ∧ (ofText "//two").toText = "//two" := by decide

end Path
end IndicatorDesigner
