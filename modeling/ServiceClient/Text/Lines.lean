/-! The parts of a text between characters of one kind, such as its lines between line feeds. -/

namespace ServiceClient.Text

/-- The parts of `s` between the characters `c`. -/
def splitAt (c : Char) : List Char → List (List Char)
  | [] => [[]]
  | d :: s =>
    if d = c then [] :: splitAt c s
    else
      match splitAt c s with
      | [] => [[d]]
      | part :: parts => (d :: part) :: parts

def linesOf (s : List Char) : List (List Char) :=
  splitAt '\n' s

def dropTrailing (c : Char) (s : List Char) : List Char :=
  (s.reverse.dropWhile (· == c)).reverse

example : linesOf "a\n\nb\n".toList = [['a'], [], ['b'], []] := by decide

end ServiceClient.Text
