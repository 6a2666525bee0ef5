/-! Shapes: the named types of a service description, and the references between them. -/

namespace ServiceClient.Schema

inductive PrimitiveKind where
  | string
  /-- Carried as text in whatever format the service uses. -/
  | timestamp
  | integer
  | long
  | float
  | double
  /-- Raw bytes. -/
  | blob
  | boolean
  deriving DecidableEq, Repr

namespace PrimitiveKind

def all : List PrimitiveKind :=
  [string, timestamp, integer, long, float, double, blob, boolean]

def word : PrimitiveKind → String
  | string => "string"
  | timestamp => "timestamp"
  | integer => "integer"
  | long => "long"
  | float => "float"
  | double => "double"
  | blob => "blob"
  | boolean => "boolean"

def ofWord? (word : String) : Option PrimitiveKind :=
  all.find? (·.word == word)

/-- Whether the values have a total order, which map keys need. -/
def isOrderable : PrimitiveKind → Bool
  | float | double => false
  | _ => true

theorem ofWord?_word (k : PrimitiveKind) : ofWord? k.word = some k := by
  cases k <;> decide

end PrimitiveKind

/-- Where a structure member travels. -/
inductive Location where
  /-- A header named by the member's wire name. -/
  | header
  /-- A placeholder in the operation's request path. -/
  | uri
  /-- A query parameter. -/
  | queryString
  /-- The body, or the flattened parameter table. -/
  | payload
  deriving DecidableEq, Repr

namespace Location

def all : List Location :=
  [header, uri, queryString, payload]

def word : Location → String
  | header => "header"
  | uri => "uri"
  | queryString => "querystring"
  | payload => "payload"

def ofWord? (word : String) : Option Location :=
  all.find? (·.word == word)

theorem ofWord?_word (l : Location) : ofWord? l.word = some l := by
  cases l <;> decide

end Location

/-- A reference to a shape from a structure, list or map. -/
structure Member where
  shape : String
  location : Location := .payload
  /-- Overrides the wire name. -/
  locationName : Option String := none
  documentation : Option String := none
  deriving DecidableEq, Repr

structure Structure where
  /-- In document order. -/
  members : List (String × Member)
  /-- Ascending, without repetition. -/
  required : List String
  /-- The member carried as the raw request body. -/
  payload : Option String
  deriving DecidableEq, Repr

namespace Structure

def isRequired (s : Structure) (name : String) : Bool :=
  s.required.contains name

def member? (s : Structure) (name : String) : Option Member :=
  s.members.lookup name

end Structure

/-- The sorts of values that hold any number of parts. -/
inductive Collection where
  | list
  | map
  deriving DecidableEq, Repr

inductive ShapeKind where
  | primitive (kind : PrimitiveKind)
  | struct (s : Structure)
  | list (element : Member)
  | map (key value : Member)
  deriving DecidableEq, Repr

namespace ShapeKind

def word : ShapeKind → String
  | primitive kind => kind.word
  | struct _ => "structure"
  | list _ => "list"
  | map _ _ => "map"

end ShapeKind

structure Shape where
  name : String
  kind : ShapeKind
  documentation : Option String := none
  deriving DecidableEq, Repr

namespace Shape

def primitive? (s : Shape) : Option PrimitiveKind :=
  match s.kind with
  | .primitive kind => some kind
  | _ => none

def structure? (s : Shape) : Option Structure :=
  match s.kind with
  | .struct s => some s
  | _ => none

def element? (s : Shape) : Option Member :=
  match s.kind with
  | .list element => some element
  | _ => none

def collection? (s : Shape) : Option Collection :=
  match s.kind with
  | .list _ => some .list
  | .map _ _ => some .map
  | _ => none

/-- The references of a shape, each with the name of its place in the shape. -/
def parts (s : Shape) : List (String × Member) :=
  match s.kind with
  | .primitive _ => []
  | .struct s => s.members
  | .list element => [("member", element)]
  | .map key value => [("key", key), ("value", value)]

def references (s : Shape) : List String :=
  s.parts.map (·.2.shape)

end Shape
end ServiceClient.Schema
