import ServiceClient.Codec.Slots
import ServiceClient.Markup.Reader

/-! Running the decoders of XML services over a list of events. A decoder consumes exactly the
elements that it is responsible for: one, or for lists and maps as many of one name as follow each
other. -/

namespace ServiceClient.Codec
open ServiceClient.Markup ServiceClient.Schema ServiceClient.Wire

/-- Reading from events. What is left of them is known after a failure too. -/
abbrev Reading := ExceptT ParseError (StateT (List Event) Option)

namespace Reading
variable {α : Type}

def pull (f : List Event → Pulled α) : Reading α :=
  ExceptT.mk fun events => some (f events)

def missing : Reading α :=
  ExceptT.mk fun _ => none

def ofOutcome (r : Outcome α) : Reading α :=
  ExceptT.mk fun events => r.run.map (·, events)

def remaining : Reading (List Event) :=
  ExceptT.mk fun events => some (.ok events, events)

/-- `inner` within an element of its own. -/
def within (tag : String) (inner : Reading α) : Reading α := do
  pull (startElement tag)
  let x ← inner
  pull (endElement tag)
  pure x

/-- Reads with `one` as long as an element `tag` follows, at most `limit` times. -/
def gather (tag : String) (one : Reading α) : (limit : Nat) → Reading (List α)
  | 0 => missing
  | limit + 1 => do
    if (← pull peekStart) = some tag then
      let x ← one
      let xs ← gather tag one limit
      pure (x :: xs)
    else pure []

/-- Hands every child element that follows to `child`, at most `limit` of them. -/
def children (child : String → α → Reading α) : (limit : Nat) → α → Reading α
  | 0, _ => missing
  | limit + 1, state => do
    match ← pull peekStart with
    | none => pure state
    | some name => children child limit (← child name state)

/-- One more than the events that are left, of which each turn of a loop consumes some. -/
def turns : Reading Nat := do
  return (← remaining).length + 1

def gatherAll (tag : String) (one : Reading α) : Reading (List α) := do
  gather tag one (← turns)

def allChildren (child : String → α → Reading α) (state : α) : Reading α := do
  children child (← turns) state

def scalar (kind : PrimitiveKind) (tag : String) : Reading Scalar :=
  within tag do
    let s ← pull characters
    ofOutcome (.ofExcept (Scalar.ofText kind tag s))

end Reading

namespace Module
variable (m : Module) (headers : Headers)

open Reading

/-- A child of a structure: the part of a member, or an element to pass over. `decode` runs the
decoder of a type under a tag. -/
def readChild (decode : String → String → Reading Value) (wire : String) (slots : Slots) :
    Reading Slots :=
  match slots.member? wire with
  | none => do
    pull skipElement
    pure slots
  | some f => do
    let v ←
      match f.source with
      | .body (some element) => within wire (decode f.type element)
      | _ => decode f.type wire
    pure (slots.store wire v)

/-- Runs the decoder of `type` on elements named `tag`, through at most `depth` nested calls. -/
def readXml : (depth : Nat) → (type tag : String) → Reading Value
  | 0, _, _ => missing
  | depth + 1, type, tag =>
    match m.decoderBody? type with
    | none => missing
    | some (.scalar kind) => do
      return .scalar (← Reading.scalar kind tag)
    | some (.list element) => do
      return .list (← gatherAll tag (readXml depth element tag))
    | some (.map key value keyWire valueWire) =>
      match m.scalarKind? key with
      | none => missing
      | some kind => do
        let entry := within tag do
          let k ← Reading.scalar kind keyWire
          let v ← readXml depth value valueWire
          pure (k, v)
        return .ofEntries (← gatherAll tag entry)
    | some (.struct shape fields) => do
      let slots ← within tag (allChildren (readChild (readXml depth)) (Slots.start fields))
      ofOutcome (slots.close shape headers)

/-- A bound on nested calls: only lists of lists go deeper without consuming events. -/
def callDepth (events : List Event) : Nat :=
  (events.length + 1) * (m.shapes.length + 1)

/-- Decodes elements named `tag` as a value of `type`. -/
def decodeXml (type tag : String) : Reading Value := do
  m.readXml headers (m.callDepth (← remaining)) type tag

end Module
end ServiceClient.Codec
