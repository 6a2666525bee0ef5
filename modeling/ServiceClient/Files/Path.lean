import ServiceClient.Text.Lines

/-! Paths as written: names between slashes, with their last name, their parent, and the same path
with another extension. A path is taken apart from its end, so the functions here work on its
characters last one first. -/

namespace ServiceClient.Files.Path

/-- Slashes at the end, and dots that stand for the directory itself, say nothing. A lone root
stays. -/
def trimEnd : List Char → List Char
  | [] => []
  | c :: s =>
    if c = '/' then (if s.all (· == '/') then ['/'] else trimEnd s)
    else if c = '.' && s.head? = some '/' then trimEnd s
    else c :: s

/-- What precedes the last name, and that name; both last character first. -/
def split (path : String) : List Char × List Char :=
  let s := trimEnd path.toList.reverse
  (s.dropWhile (· != '/'), s.takeWhile (· != '/'))

def text (reversed : List Char) : String :=
  String.ofList reversed.reverse

/-- The name of the file, unless the path ends in the directory itself, its parent or the root. -/
def fileName? (path : String) : Option String :=
  let name := text (split path).2
  if name == "" || name == "." || name == ".." then none else some name

/-- Empty for a single name; none for the root and the empty path. -/
def parent? (path : String) : Option String :=
  let (before, name) := split path
  if name.isEmpty then none else some (text (trimEnd before))

/-- A file name up to its last dot, of which one at the start does not count. -/
def stem (name : List Char) : List Char :=
  let before := (name.reverse.dropWhile (· != '.')).drop 1
  if before.isEmpty then name else before.reverse

/-- The path with its extension replaced, or one added. -/
def withExtension (path extension : String) : String :=
  match fileName? path with
  | none => path
  | some name =>
    text (split path).1 ++ String.ofList (stem name.toList) ++ "." ++ extension

/-- The names along a path, without those that say nothing. -/
def names (path : String) : List String :=
  ((Text.splitAt '/' path.toList).map String.ofList).filter fun n => n != "" && n != "."

/-- Whether the path ends in the name of a file and no slash after it. -/
def endsInName (path : String) : Bool :=
  let last := text (path.toList.reverse.takeWhile (· != '/'))
  last != "" && last != "." && last != ".."

example : withExtension "d.x/e.f.rs" "tmp" = "d.x/e.f.tmp" := by decide +kernel

example : withExtension ".hidden" "tmp" = ".hidden.tmp" := by decide +kernel

example : parent? "d/./e.rs" = some "d" := by decide +kernel

end ServiceClient.Files.Path
