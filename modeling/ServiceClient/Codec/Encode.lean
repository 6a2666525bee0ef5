import ServiceClient.Codec.Plan
import ServiceClient.Codec.Value
import ServiceClient.Wire.Request

/-! Running encoders. A value becomes a list of writes: the parts of the input go into parameters
with dotted names, list elements and map entries numbered from one, unless a member travels
elsewhere. -/

namespace ServiceClient.Codec
open ServiceClient.Wire

def indexText (n : Nat) : String :=
  toString n

/-- The write of a member that does not go below the parameters of its parent. -/
def Target.write? : Target → Scalar → Option Write
  | .header wire, v => some (.header wire v.toText)
  | .pathParam wire, v => some (.pathParam wire v.toText)
  | .queryParam wire, v => some (.param wire v.toText)
  | .rawPayload, v => some (.payload v.toBytes)
  | .nested _ _, _ => none

namespace Module
variable (m : Module)

def encoderBody? (type : String) : Option EncoderBody :=
  (m.encoder? type).map (·.body)

mutual

/-- The writes of the encoder of `type` for a value under `name`; absent where the module has no
such encoder or the value is not of the type. -/
def writes (type name : String) : Value → Option (List Write)
  | .scalar v =>
    match m.encoderBody? type with
    | some .scalar => some [.param name v.toText]
    | _ => none
  | .list items =>
    match m.encoderBody? type with
    | some (.list element) => itemWrites element name 1 items
    | _ => none
  | .map entries =>
    match m.encoderBody? type with
    | some (.map key value keyWire valueWire) =>
      entryWrites key value keyWire valueWire name 1 entries
    | _ => none
  | .struct fields =>
    match m.encoderBody? type with
    | some (.struct plan) => fieldWrites name plan fields
    | _ => none

/-- The elements from number `n` on. -/
def itemWrites (element name : String) (n : Nat) : List Value → Option (List Write)
  | [] => some []
  | v :: items => do
    let first ← writes element (joinPath name (indexText n)) v
    let rest ← itemWrites element name (n + 1) items
    some (first ++ rest)

/-- The entries from number `n` on. -/
def entryWrites (key value keyWire valueWire name : String) (n : Nat) :
    List (Scalar × Value) → Option (List Write)
  | [] => some []
  | (k, v) :: entries => do
    let entry := joinPath name (indexText n)
    let first ←
      match m.encoderBody? key with
      | some .scalar => some [.param (joinPath entry keyWire) k.toText]
      | _ => none
    let second ← writes value (joinPath entry valueWire) v
    let rest ← entryWrites key value keyWire valueWire name (n + 1) entries
    some (first ++ second ++ rest)

/-- The members in turn; the fields of the value are those of the plan. -/
def fieldWrites (name : String) :
    List FieldWrite → List (String × Option Value) → Option (List Write)
  | [], [] => some []
  | f :: plan, (field, value) :: fields =>
    if f.field ≠ field then none
    else do
      let first ← memberWrites name f value
      let rest ← fieldWrites name plan fields
      some (first ++ rest)
  | _, _ => none

/-- Nothing for a member that may be absent and is. -/
def memberWrites (name : String) (f : FieldWrite) : Option Value → Option (List Write)
  | none => if f.required then none else some []
  | some v =>
    match f.target with
    | .nested type wire => writes type (joinPath name wire) v
    | target =>
      match v with
      | .scalar s => (target.write? s).map ([·])
      | _ => none

end

/-- Encodes a value under `name` into a request. -/
def encode (type name : String) (v : Value) (r : Request) : Option Request :=
  (m.writes type name v).map r.writeAll

end Module
end ServiceClient.Codec
