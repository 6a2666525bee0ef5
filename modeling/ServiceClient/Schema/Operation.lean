/-! Operations: the named calls of a service. -/

namespace ServiceClient.Schema

inductive HttpMethod where
  | get
  | post
  | put
  | patch
  | delete
  | head
  | options
  deriving DecidableEq, Repr

namespace HttpMethod

def all : List HttpMethod :=
  [get, post, put, patch, delete, head, options]

def word : HttpMethod → String
  | get => "GET"
  | post => "POST"
  | put => "PUT"
  | patch => "PATCH"
  | delete => "DELETE"
  | head => "HEAD"
  | options => "OPTIONS"

def ofWord? (word : String) : Option HttpMethod :=
  all.find? (·.word == word)

theorem ofWord?_word (m : HttpMethod) : ofWord? m.word = some m := by
  cases m <;> decide

end HttpMethod

structure Operation where
  name : String
  method : HttpMethod
  /-- Path template with placeholders in braces. -/
  requestUri : String
  input : Option String
  output : Option String
  documentation : Option String
  deriving DecidableEq, Repr

namespace Operation

/-- The shape references of an operation, each with the name of its place. -/
def parts (o : Operation) : List (String × String) :=
  (o.input.map ("input", ·)).toList ++ (o.output.map ("output", ·)).toList

end Operation
end ServiceClient.Schema
