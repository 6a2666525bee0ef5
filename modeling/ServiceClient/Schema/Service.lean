import ServiceClient.Data.SortedMap
import ServiceClient.Schema.Document
import ServiceClient.Schema.LoadError
import ServiceClient.Schema.Operation

/-! A loaded service: checked shapes and operations in name order. Loading keeps the last entry of a
repeated name, checks the shapes, then the operations, then the references, and stops at the first
fault in that order. -/

namespace ServiceClient.Schema

structure Service where
  metadata : Metadata
  /-- In name order. -/
  operations : List Operation
  /-- In name order. -/
  shapes : List Shape
  deriving DecidableEq

namespace MemberEntry

def toMember (entry : MemberEntry) (shape member : String) : Except LoadError Member :=
  let make := fun location : Location =>
    ({ shape := entry.shape, location, locationName := entry.locationName,
       documentation := entry.documentation } : Member)
  match entry.location with
  | none => .ok (make .payload)
  | some word =>
    match Location.ofWord? word with
    | some location => .ok (make location)
    | none => .error (.unknownLocation shape member word)

end MemberEntry

namespace ShapeEntry

/-- The members from the first entry on, none of which repeats one of `earlier`. -/
def toMembers (shape : String) :
    (earlier : List String) → List (String × MemberEntry) →
      Except LoadError (List (String × Member))
  | _, [] => .ok []
  | earlier, (name, entry) :: rest => do
    if earlier.contains name then .error (.duplicateMember shape name)
    let member ← entry.toMember shape name
    let members ← toMembers shape (name :: earlier) rest
    .ok ((name, member) :: members)

def toStructure (entry : ShapeEntry) (name : String) : Except LoadError Structure := do
  let members ← toMembers name [] entry.members
  let required := SortedMap.nameSet entry.required
  let known := fun member => (members.lookup member).isSome
  match required.find? (!known ·) with
  | some member => .error (.unknownRequiredMember name member)
  | none =>
    match entry.payload.filter (!known ·) with
    | some member => .error (.unknownPayloadMember name member)
    | none => .ok { members, required, payload := entry.payload }

/-- A part of a list or map that must be there. -/
def needPart (shape kind part : String) (entry : Option MemberEntry) :
    Except LoadError MemberEntry :=
  match entry with
  | some e => .ok e
  | none => .error (.missingPart shape kind part)

def toKind (entry : ShapeEntry) (name : String) : Except LoadError ShapeKind := do
  if entry.type = "structure" then .struct <$> entry.toStructure name
  else if entry.type = "list" then do
    let member ← needPart name "list" "member" entry.member
    .list <$> member.toMember name "member"
  else if entry.type = "map" then do
    let key ← needPart name "map" "key" entry.key
    let value ← needPart name "map" "value" entry.value
    let key ← key.toMember name "key"
    let value ← value.toMember name "value"
    .ok (.map key value)
  else
    match PrimitiveKind.ofWord? entry.type with
    | some kind => .ok (.primitive kind)
    | none => .error (.unknownShapeKind name entry.type)

def toShape (entry : ShapeEntry) (name : String) : Except LoadError Shape := do
  let kind ← entry.toKind name
  .ok { name, kind, documentation := entry.documentation }

end ShapeEntry

namespace OperationEntry

/-- The method is read in either case. -/
def toOperation (entry : OperationEntry) (name : String) : Except LoadError Operation :=
  match HttpMethod.ofWord? entry.http.method.toUpper with
  | some method =>
    .ok { name, method, requestUri := entry.http.requestUri, input := entry.input,
          output := entry.output, documentation := entry.documentation }
  | none => .error (.unknownHttpMethod name entry.http.method)

end OperationEntry

namespace Service

def shape? (s : Service) (name : String) : Option Shape :=
  s.shapes.find? (·.name == name)

def defines (s : Service) (name : String) : Bool :=
  (s.shape? name).isSome

/-- Every reference to a shape, with what makes it: shapes before operations. -/
def references (s : Service) : List (String × String) :=
  (s.shapes.flatMap fun shape =>
    shape.parts.map fun (part, member) => (s!"{shape.name}.{part}", member.shape)) ++
  s.operations.flatMap fun o =>
    o.parts.map fun (part, shape) => (s!"operation {o.name} {part}", shape)

def checkReferences (s : Service) : Except LoadError Unit :=
  match s.references.find? fun (_, shape) => !s.defines shape with
  | some (owner, shape) => .error (.danglingReference owner shape)
  | none => .ok ()

def ofDocument (d : Document) : Except LoadError Service := do
  let shapes ← (SortedMap.ofLast SortedMap.nameLt d.shapes).mapM fun (name, entry) =>
    entry.toShape name
  let operations ← (SortedMap.ofLast SortedMap.nameLt d.operations).mapM fun (name, entry) =>
    entry.toOperation name
  let service : Service := { metadata := d.metadata, operations, shapes }
  service.checkReferences
  .ok service

def load (text : String) : Except LoadError Service := do
  let document ← (Document.parse text).mapError .unreadable
  ofDocument document

/-- Loads a text by its characters. They are taken from a literal by unification, since decoding the
bytes of the literal would take the kernel far longer. -/
theorem load_ofList {chars : List Char} {s : Service}
    (read : (((Json.readBytes Document.read (chars.flatMap String.utf8EncodeChar)).mapError
      LoadError.unreadable).bind ofDocument).toOption = some s) :
    load (String.ofList chars) = .ok s := by
  have loads : load (String.ofList chars) =
      ((Json.readBytes Document.read (chars.flatMap String.utf8EncodeChar)).mapError
        LoadError.unreadable).bind ofDocument := by
    rw [load, Document.parse, Text.utf8, String.toList_ofList]
    rfl
  rw [← loads] at read
  cases loaded : load (String.ofList chars) with
  | error e => simp [loaded, Except.toOption] at read
  | ok t => simpa [loaded, Except.toOption] using read

end Service
end ServiceClient.Schema
