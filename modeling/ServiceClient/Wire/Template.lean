import ServiceClient.Text.Percent

/-! Path templates. A placeholder runs from a brace that opens to the next one that closes. A bound
placeholder is replaced by the percent-encoded value, any other stays as written. -/

namespace ServiceClient.Wire.Template
open ServiceClient.Text

/-- A name with `+` at its end may span path segments, so its value keeps the slash. -/
def splitGreedy (written : List Char) : List Char × Bool :=
  if written.getLast? = some '+' then (written.dropLast, true) else (written, false)

def keep (greedy : Bool) (c : Char) : Bool :=
  unreserved c || (greedy && c == '/')

/-- What a placeholder with the text `written` between its braces becomes. -/
def fill (value? : String → Option String) (written : List Char) : List Char :=
  let (name, greedy) := splitGreedy written
  match value? (String.ofList name) with
  | some value => percentChars (keep greedy) value.toList
  | none => '{' :: written ++ ['}']

/-- `opened` holds what was read since a brace that is still open, last character first. -/
def expandFrom (value? : String → Option String) (opened : Option (List Char)) :
    List Char → List Char
  | [] =>
    match opened with
    | none => []
    | some read => '{' :: read.reverse
  | c :: s =>
    match opened with
    | none => if c = '{' then expandFrom value? (some []) s else c :: expandFrom value? none s
    | some read =>
      if c = '}' then fill value? read.reverse ++ expandFrom value? none s
      else expandFrom value? (some (c :: read)) s

def expand (value? : String → Option String) (template : String) : String :=
  String.ofList (expandFrom value? none template.toList)

example : expand (fun name => [("Id", "w 1"), ("Key", "a/b")].lookup name)
    "/\x7bId\x7d/\x7bKey+\x7d/\x7b" =
    "/w%201/a/b/\x7b" := by decide +kernel

end ServiceClient.Wire.Template
