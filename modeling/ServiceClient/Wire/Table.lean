/-! Tables of named texts, in the order in which the names were first put. Putting a name again
replaces its value where it stands. Nested values have dotted names. -/

namespace ServiceClient.Wire

abbrev Table := List (String × String)

namespace Table

def put (name value : String) : Table → Table
  | [] => [(name, value)]
  | (n, v) :: t => if n = name then (n, value) :: t else (n, v) :: put name value t

def get? (t : Table) (name : String) : Option String :=
  t.lookup name

example : put "a" "3" (put "b" "2" (put "a" "1" [])) = [("a", "3"), ("b", "2")] := by decide

end Table

/-- The name of the part `segment` of the value `name`; the whole input has the empty name. -/
def joinPath (name segment : String) : String :=
  if name.isEmpty then segment else name ++ "." ++ segment

end ServiceClient.Wire
