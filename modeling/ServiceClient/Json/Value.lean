import ServiceClient.Data.SortedMap
import ServiceClient.Json.Reader

/-! JSON values. Objects are maps in name order; of a repeated key the first value is kept. -/

namespace ServiceClient.Json

inductive Value where
  | null
  | bool (b : Bool)
  | number (n : Numeral)
  | string (s : String)
  | array (items : List Value)
  | object (entries : List (String × Value))

/-- The sorts of values. -/
inductive Kind where
  | null
  | boolean
  | number
  | string
  | array
  | object
  deriving DecidableEq

/-- For messages. -/
def Kind.noun : Kind → String
  | null => "null"
  | boolean => "a boolean"
  | number => "a number"
  | string => "a string"
  | array => "an array"
  | object => "an object"

namespace Value

/-- Nesting that the reader accepts. -/
def maxDepth : Nat := 127

mutual

/-- The value of a tree, with lists and objects nested at most `depth` deep. -/
def ofTree (depth : Nat) : Tree → Except ReadError Value
  | .null => .ok .null
  | .bool b => .ok (.bool b)
  | .number l => do .ok (.number (← (Numeral.ofLiteral l).mapError .defect))
  | .string s => do .ok (.string (← spelled s))
  | .array items close => do
    if depth = 0 then .error (.defect .malformed)
    let values ← ofItems (depth - 1) items
    closed close
    .ok (.array values)
  | .object entries close => do
    if depth = 0 then .error (.defect .malformed)
    let values ← ofEntries (depth - 1) entries
    closed close
    .ok (.object (SortedMap.ofFirst SortedMap.nameLt values))
  | .broken fault => .error (.defect fault.read)

def ofItems (depth : Nat) : List Tree → Except ReadError (List Value)
  | [] => .ok []
  | t :: rest => do
    let value ← ofTree depth t
    let values ← ofItems depth rest
    .ok (value :: values)

/-- The entries of an object in document order, repeated keys included. -/
def ofEntries (depth : Nat) : List (Spelling × Tree) → Except ReadError (List (String × Value))
  | [] => .ok []
  | (key, t) :: rest => do
    let name ← spelled key
    let value ← ofTree depth t
    let values ← ofEntries depth rest
    .ok ((name, value) :: values)

end

def ofBytes (bytes : List UInt8) : Except ReadError Value :=
  readBytes (ofTree maxDepth) bytes

def kind : Value → Kind
  | null => .null
  | bool _ => .boolean
  | number _ => .number
  | string _ => .string
  | array _ => .array
  | object _ => .object

def items? : Value → Option (List Value)
  | array items => some items
  | _ => none

def entries? : Value → Option (List (String × Value))
  | object entries => some entries
  | _ => none

/-- The value of a body. One of white space alone, form feeds included, is an object without
entries. -/
def ofBody (bytes : List UInt8) : Except ReadError Value :=
  if bytes.all fun b => b == 0x20 || b == 9 || b == 10 || b == 12 || b == 13 then .ok (.object [])
  else ofBytes bytes

end Value
end ServiceClient.Json
