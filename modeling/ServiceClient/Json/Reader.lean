import ServiceClient.Json.Number
import ServiceClient.Text.Quoted

/-! Typed reading of JSON. A reader goes through its tree in document order and stops at the first
fault or at the first part of another type than wanted. -/

namespace ServiceClient.Json

inductive ReadError where
  | defect (d : Defect)
  | wrongType (found wanted : String)
  | duplicateField (name : String)
  | missingField (name : String)
  /-- A record given as an array ends before a field that has no default. -/
  | tooShort (length : Nat) (record : String) (size : Nat)
  deriving DecidableEq

namespace ReadError

/-- The text of an error about the data; defects of the text have none of their own. -/
def message? : ReadError → Option String
  | defect _ => none
  | wrongType found wanted => some s!"invalid type: {found}, expected {wanted}"
  | duplicateField name => some s!"duplicate field `{name}`"
  | missingField name => some s!"missing field `{name}`"
  | tooShort length record size =>
    let elements := if size = 1 then "element" else "elements"
    some s!"invalid length {length}, expected struct {record} with {size} {elements}"

end ReadError

abbrev Reader (α : Type) := Tree → Except ReadError α

def spelled (s : Spelling) : Except ReadError String :=
  s.mapError .defect

/-- Ends a list or object: a fault in place of its closing bracket is an error. -/
def closed (close : Option Fault) : Except ReadError Unit :=
  match close with
  | none => .ok ()
  | some fault => .error (.defect fault.read)

mutual

/-- Passes over a value. Its strings and numbers are not looked into. -/
def skip : Tree → Except ReadError Unit
  | .array items close => do
    skipItems items
    skipClose close
  | .object entries close => do
    skipEntries entries
    skipClose close
  | .broken fault => .error (.defect fault.skipped)
  | _ => .ok ()

def skipItems : List Tree → Except ReadError Unit
  | [] => .ok ()
  | t :: rest => do
    skip t
    skipItems rest

def skipEntries : List (Spelling × Tree) → Except ReadError Unit
  | [] => .ok ()
  | (_, t) :: rest => do
    skip t
    skipEntries rest

def skipClose : Option Fault → Except ReadError Unit
  | none => .ok ()
  | some fault => .error (.defect fault.skipped)

end

/-- What a message calls the value, read as far as that needs. -/
def found : Tree → Except ReadError String
  | .null => .ok "null"
  | .bool b => .ok s!"boolean `{b}`"
  | .number l => do
    match ← (Numeral.ofLiteral l).mapError .defect with
    | .int n => .ok s!"integer `{n}`"
    | .float x => .ok s!"floating point `{x.jsonText}`"
  | .string s => do .ok s!"string {Text.quoted (← spelled s)}"
  | .array _ _ => .ok "sequence"
  | .object _ _ => .ok "map"
  | .broken fault => .error (.defect fault.read)

def mismatch {α : Type} (wanted : String) (t : Tree) : Except ReadError α := do
  .error (.wrongType (← found t) wanted)

def readText : Reader String
  | .string s => spelled s
  | t => mismatch "a string" t

def readOptional {α : Type} (read : Reader α) : Reader (Option α)
  | .null => .ok none
  | t => some <$> read t

def readList {α : Type} (read : Reader α) : Reader (List α)
  | .array items close => do
    let values ← items.mapM read
    closed close
    .ok values
  | t => mismatch "a sequence" t

/-- All entries of an object in document order. -/
def readEntries {α : Type} (wanted : String) (read : Reader α) : Reader (List (String × α))
  | .object entries close => do
    let values ← entries.mapM fun (key, t) => do
      let name ← spelled key
      let value ← read t
      .ok (name, value)
    closed close
    .ok values
  | t => mismatch wanted t

/-- One field of a record under construction. A field that is not required keeps its default. -/
structure RecordField (σ : Type) where
  name : String
  required : Bool
  set : σ → Tree → Except ReadError σ

namespace RecordField
variable {σ : Type}

/-- Reads the entries of an object into a record: known fields once each, others passed over. -/
def readNamed (fields : List (RecordField σ)) :
    List (Spelling × Tree) → (seen : List String) → σ → Except ReadError (List String × σ)
  | [], seen, record => .ok (seen, record)
  | (key, t) :: rest, seen, record => do
    let name ← spelled key
    match fields.find? (·.name == name) with
    | none =>
      skip t
      readNamed fields rest seen record
    | some field =>
      if seen.contains name then .error (.duplicateField name)
      else
        let record ← field.set record t
        readNamed fields rest (name :: seen) record

/-- Reads the items of an array into a record, one per field, from the `index`th on. -/
def readOrdered (recordName : String) (size : Nat) (close : Option Fault) :
    List (RecordField σ) → List Tree → (index : Nat) → σ → Except ReadError σ
  | [], [], _, record => do
    closed close
    .ok record
  | [], _ :: _, _, _ => .error (.defect .malformed)
  | field :: fields, [], index, record => do
    closed close
    if field.required then .error (.tooShort index recordName size)
    else readOrdered recordName size close fields [] (index + 1) record
  | field :: fields, t :: rest, index, record => do
    let record ← field.set record t
    readOrdered recordName size close fields rest (index + 1) record

end RecordField

/-- A record, as an object or as an array of its fields in order. -/
def readRecord {σ : Type} (recordName : String) (fields : List (RecordField σ)) (blank : σ) :
    Reader σ
  | .object entries close => do
    let (seen, record) ← RecordField.readNamed fields entries [] blank
    closed close
    match fields.find? fun field => field.required && !seen.contains field.name with
    | some field => .error (.missingField field.name)
    | none => .ok record
  | .array items close =>
    RecordField.readOrdered recordName fields.length close fields items 0 blank
  | t => mismatch s!"struct {recordName}" t

/-- A value that is the whole of `source`. -/
def Source.read {α : Type} (read : Reader α) (source : Source) : Except ReadError α := do
  let value ← read source.tree
  if source.trailing then .error (.defect .malformed) else .ok value

def readBytes {α : Type} (read : Reader α) (bytes : List UInt8) : Except ReadError α :=
  (Source.ofBytes bytes).read read

end ServiceClient.Json
