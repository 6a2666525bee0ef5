import ServiceClient.Codec.Slots

/-! Running the decoders of JSON services. Members that are null count as absent and unknown members
are ignored. -/

namespace ServiceClient.Codec
open ServiceClient.Schema ServiceClient.Wire

namespace Module
variable (m : Module) (headers : Headers)

/-- Decoding of what has no parts that a decoder would look at. -/
def decodeLeaf (field : String) (v : Json.Value) : DecoderBody → Except ParseError Value
  | .scalar kind => (Scalar.ofJson kind field v).map .scalar
  | .list _ => .error (.unexpectedType field .array v.kind)
  | .map .. | .struct .. => .error (.unexpectedType field .object v.kind)

mutual

/-- Runs the decoder of `type`. `field` names the value in errors. -/
def decodeJson (type field : String) : Json.Value → Outcome Value
  | .array items =>
    match m.decoderBody? type with
    | none => .missing
    | some (.list element) => do
      return .list (← jsonItems element field items)
    | some body => .ofExcept (decodeLeaf field (.array items) body)
  | .object entries =>
    match m.decoderBody? type with
    | none => .missing
    | some (.map key value _ _) =>
      match m.scalarKind? key with
      | none => .missing
      | some kind => do
        return .ofEntries (← jsonEntries kind value field entries)
    | some (.struct shape fields) => do
      let slots ← jsonMembers (Slots.start fields) entries
      slots.close shape headers
    | some body => .ofExcept (decodeLeaf field (.object entries) body)
  | v =>
    match m.decoderBody? type with
    | none => .missing
    | some body => .ofExcept (decodeLeaf field v body)

def jsonItems (element field : String) : List Json.Value → Outcome (List Value)
  | [] => pure []
  | v :: items => do
    let x ← decodeJson element field v
    let xs ← jsonItems element field items
    pure (x :: xs)

/-- The entries of a map, whose keys are read from their names. -/
def jsonEntries (kind : PrimitiveKind) (value field : String) :
    List (String × Json.Value) → Outcome (List (Scalar × Value))
  | [] => pure []
  | (name, v) :: entries => do
    let k ← Outcome.ofExcept (Scalar.ofText kind field name)
    let x ← decodeJson value field v
    let rest ← jsonEntries kind value field entries
    pure ((k, x) :: rest)

/-- The members of a structure, each stored as it is met. -/
def jsonMembers (slots : Slots) : List (String × Json.Value) → Outcome Slots
  | [] => pure slots
  | (_, .null) :: entries => jsonMembers slots entries
  | (wire, v) :: entries =>
    match slots.member? wire with
    | none => jsonMembers slots entries
    | some f => do
      let x ← decodeJson f.type wire v
      jsonMembers (slots.store wire x) entries

end

end Module
end ServiceClient.Codec
