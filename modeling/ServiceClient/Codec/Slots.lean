import ServiceClient.Codec.Plan
import ServiceClient.Codec.Value
import ServiceClient.Wire.Response

/-! What the decoders of both protocols share: one slot for each member of a structure, filled while
the body is read, then from the headers, and turned into the fields of the value at the end. -/

namespace ServiceClient.Codec
open ServiceClient.Schema ServiceClient.Wire

/-- A result or the reason why there is none. Absent where a codec that is called does not exist or
does not fit, which checked modules exclude. -/
abbrev Outcome := ExceptT ParseError Option

namespace Outcome

def missing {α : Type} : Outcome α :=
  ExceptT.mk none

def ofExcept {α : Type} (r : Except ParseError α) : Outcome α :=
  ExceptT.mk (some r)

end Outcome

namespace Module
variable (m : Module)

def decoderBody? (type : String) : Option DecoderBody :=
  (m.decoder? type).map (·.body)

/-- The kind of scalars that a type stands for, as the keys of a map need. -/
def scalarKind? (type : String) : Option PrimitiveKind :=
  match m.decoderBody? type with
  | some (.scalar kind) => some kind
  | _ => none

end Module

def emptyCollection : Collection → Value
  | .list => .list []
  | .map => .map []

namespace FieldRead

/-- The slot after a value was met: collections are merged, of anything else the last value
stays. -/
def store (f : FieldRead) (v : Value) (slot : Option Value) : Option Value :=
  if f.collection.isSome then Value.mergeInto slot v else some v

/-- The field that a slot becomes. -/
def finish (shape : String) (f : FieldRead) (slot : Option Value) :
    Except ParseError (Option Value) :=
  match slot, f.required, f.collection with
  | some v, _, _ => .ok (some v)
  | none, false, _ => .ok none
  | none, true, some c => .ok (some (emptyCollection c))
  | none, true, none => .error (.missingField shape f.wire)

/-- The slot of a member that travels in a header. -/
def ofHeader (headers : Headers) (f : FieldRead) (kind : PrimitiveKind) :
    Except ParseError (Option Value) :=
  match headerText headers f.wire with
  | none => .ok none
  | some s => (Scalar.ofText kind f.wire s).map fun v => some (.scalar v)

end FieldRead

abbrev Slots := List (FieldRead × Option Value)

namespace Slots

def start (fields : List FieldRead) : Slots :=
  fields.map (·, none)

/-- The member that a part of the body belongs to. -/
def member? (slots : Slots) (wire : String) : Option FieldRead :=
  (slots.find? fun s => s.1.isPart wire).map (·.1)

/-- Stores what was read from a part of the body. -/
def store (wire : String) (v : Value) : Slots → Slots
  | [] => []
  | (f, slot) :: slots =>
    if f.isPart wire then (f, f.store v slot) :: slots else (f, slot) :: store wire v slots

def readHeaders (headers : Headers) (slots : Slots) : Outcome Slots :=
  slots.mapM fun (f, slot) =>
    match f.source with
    | .body _ => pure (f, slot)
    | .header none => .missing
    | .header (some kind) => do
      let read ← .ofExcept (f.ofHeader headers kind)
      pure (f, read)

/-- The value of a structure, or the first required member that was not met. -/
def finish (shape : String) (slots : Slots) : Except ParseError Value := do
  let fields ← slots.mapM fun (f, slot) => do
    let value ← f.finish shape slot
    .ok (f.field, value)
  .ok (.struct fields)

/-- What remains to do once the body is read. -/
def close (shape : String) (headers : Headers) (slots : Slots) : Outcome Value := do
  let slots ← slots.readHeaders headers
  .ofExcept (slots.finish shape)

end Slots
end ServiceClient.Codec
