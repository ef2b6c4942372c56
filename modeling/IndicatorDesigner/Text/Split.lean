/-! Text in parts. -/
namespace IndicatorDesigner.Text

/-- The characters between marks, which are not part of them. -/
def split (mark : Char) : List Char → List (List Char)
  | [] => [[]]
  | c :: rest =>
    if c = mark then [] :: split mark rest
    else
      match split mark rest with
      | part :: parts => (c :: part) :: parts
      | [] => [[c]]

def join (mark : Char) (parts : List (List Char)) : List Char := [mark].intercalate parts

example : split '/' ['a', '/', '/', 'b'] = [['a'], [], ['b']] := by decide

end IndicatorDesigner.Text
