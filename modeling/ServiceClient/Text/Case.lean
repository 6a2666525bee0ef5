import ServiceClient.Text.Blank

/-! Two spellings of a name for identifiers: words joined by underscores, and words joined by
capitals. Only ASCII letters and digits survive; every other character separates. -/

namespace ServiceClient.Text

/-- A separator belongs before the upper-case letter between `before` and `after`: behind a
lower-case letter or digit, and before the last capital of a run when a lower-case letter follows
it. -/
def startsWord (before : Option Char) (after : List Char) : Bool :=
  match before with
  | none => false
  | some p =>
    p.isLower || p.isDigit || (p.isUpper && after.head?.any Char.isLower)

def snakeFrom (before : Option Char) : List Char → List Char
  | [] => []
  | c :: s =>
    if c.isUpper then
      if startsWord before s then '_' :: c.toLower :: snakeFrom (some c) s
      else c.toLower :: snakeFrom (some c) s
    else if c.isAlphanum || c == '_' then c :: snakeFrom (some c) s
    else '_' :: snakeFrom (some c) s

def snakeCase (name : String) : String :=
  String.ofList (snakeFrom none name.toList)

def capitalize : List Char → List Char
  | [] => []
  | c :: s => c.toUpper :: s

def pascalChars (name : List Char) : List Char :=
  ((splitRuns (!·.isAlphanum) name).map capitalize).flatten

def pascalCase (name : String) : String :=
  String.ofList (pascalChars name.toList)

example : snakeCase "SSEKMSKeyId" = "ssekms_key_id" := by decide +kernel

example : snakeCase "x-amz-Meta9Tag" = "x_amz_meta9_tag" := by decide +kernel

example : pascalCase "Elastic Load-balancing" = "ElasticLoadBalancing" := by decide +kernel

end ServiceClient.Text
