/-! White space in the sense of the Unicode property `White_Space`: trimming, blank text, and the
words of a line. -/

namespace ServiceClient.Text

def isBlank (c : Char) : Bool :=
  let n := c.toNat
  (9 ≤ n && n ≤ 13) || n == 0x20 || n == 0x85 || n == 0xA0 || n == 0x1680 ||
    (0x2000 ≤ n && n ≤ 0x200A) || n == 0x2028 || n == 0x2029 || n == 0x202F ||
    n == 0x205F || n == 0x3000

def trimStart (s : List Char) : List Char :=
  s.dropWhile isBlank

def trimEnd (s : List Char) : List Char :=
  (s.reverse.dropWhile isBlank).reverse

def trimChars (s : List Char) : List Char :=
  trimEnd (trimStart s)

def trim (s : String) : String :=
  String.ofList (trimChars s.toList)

/-- No character of `s` is other than white space; the empty text is blank too. -/
def blankText (s : String) : Bool :=
  s.toList.all isBlank

/-- The maximal runs of characters on which `sep` is false, in order. -/
def splitRuns (sep : Char → Bool) : List Char → List (List Char)
  | [] => []
  | c :: s =>
    if sep c then splitRuns sep s
    else
      match s, splitRuns sep s with
      | d :: _, run :: runs => if sep d then [c] :: run :: runs else (c :: run) :: runs
      | _, runs => [c] :: runs

def words (s : List Char) : List (List Char) :=
  splitRuns isBlank s

example : words "a  bc\u00a0d ".toList = [['a'], ['b', 'c'], ['d']] := by decide

example : trim "\u2003 x y\n" = "x y" := by decide

end ServiceClient.Text
