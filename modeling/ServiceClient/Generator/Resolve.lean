import ServiceClient.Codec.Plan
import ServiceClient.Generator.Context
import ServiceClient.Generator.Docs

/-! The plan of a client module. Every name is resolved here; printing a plan cannot fail. -/

namespace ServiceClient.Generator
open ServiceClient.Schema ServiceClient.Codec

namespace Context
variable (ctx : Context)

def writeTarget (s : Structure) (p : MemberPlan) : Target :=
  match p.member.location with
  | .header => .header p.wire
  | .uri => .pathParam p.wire
  | .queryString => .queryParam p.wire
  | .payload => if ctx.isRawPayload s p then .rawPayload else .nested p.type p.wire

def encoderBody (kind : ShapeKind) : Except Error EncoderBody :=
  match kind with
  | .primitive _ => .ok .scalar
  | .list element => do .ok (.list (← ctx.names.typeName element.shape))
  | .map key value => do
    let k ← ctx.names.typeName key.shape
    let v ← ctx.names.typeName value.shape
    .ok (.map k v (keyWireName key) (valueWireName value))
  | .struct s => do
    let plans ← ctx.memberPlans s
    .ok (.struct (plans.map fun p => ⟨p.field, p.required, ctx.writeTarget s p⟩))

def encoder (shape : Shape) : Except Error Encoder := do
  let type ← ctx.names.typeName shape.name
  let body ← ctx.encoderBody shape.kind
  .ok { type, body }

def readField (p : MemberPlan) : FieldRead :=
  { field := p.field, wire := p.wire, type := p.type, required := p.required,
    collection := p.target.collection?,
    source := if p.isHeader then .header p.target.primitive? else .body p.wrappedElement? }

def decoderBody (name : String) (kind : ShapeKind) : Except Error DecoderBody :=
  match kind with
  | .primitive kind => .ok (.scalar kind)
  | .list element => do .ok (.list (← ctx.names.typeName element.shape))
  | .map key value => do
    let k ← ctx.names.typeName key.shape
    let v ← ctx.names.typeName value.shape
    .ok (.map k v (keyWireName key) (valueWireName value))
  | .struct s => do .ok (.struct name ((← ctx.memberPlans s).map readField))

def decoder (shape : Shape) : Except Error Decoder := do
  let type ← ctx.names.typeName shape.name
  let body ← ctx.decoderBody shape.name shape.kind
  .ok { type, body }

def fieldDeclaration (s : Structure) (name : String) (m : Member) :
    Except Error FieldDeclaration := do
  let field ← ctx.names.snakeName name
  let type ← ctx.names.typeName m.shape
  .ok { docs := Docs.ofOptional m.documentation, name := field, type,
        required := s.isRequired name }

/-- Nothing for structures, which are declared with their fields. -/
def alias? (kind : ShapeKind) : Except Error (Option Alias) :=
  match kind with
  | .primitive kind => .ok (some (.primitive kind))
  | .list element => do .ok (some (.list (← ctx.names.typeName element.shape)))
  | .map key value => do
    let k ← ctx.names.typeName key.shape
    let v ← ctx.names.typeName value.shape
    .ok (some (.map k v))
  | .struct _ => .ok none

def typeBody (shape : Shape) : Except Error TypeBody := do
  match ← ctx.alias? shape.kind with
  | some target => .ok (.alias target)
  | none =>
    let s := shape.structure?.getD ⟨[], [], none⟩
    .ok (.struct (← s.members.mapM fun (name, m) => ctx.fieldDeclaration s name m))

/-- Nothing for the native string. -/
def declaration (shape : Shape) : Except Error (Option Declaration) := do
  if isNativeString shape then .ok none
  else
    let name ← ctx.names.typeName shape.name
    let body ← ctx.typeBody shape
    .ok (some { docs := Docs.ofOptional shape.documentation, name, body })

def shapePlan (shape : Shape) : Except Error ShapePlan := do
  let decoder ← if ctx.hasDecoder shape.name then some <$> ctx.decoder shape else .ok none
  let declaration ← ctx.declaration shape
  let encoder ← if ctx.hasEncoder shape.name then some <$> ctx.encoder shape else .ok none
  .ok { decoder, declaration, encoder }

/-- What marks a request of a JSON service: its action and version, and the target and content type
headers that the metadata asks for. -/
def setup (o : Operation) : List Setup :=
  let m := ctx.service.metadata
  match ctx.protocol with
  | .restXml => []
  | .json =>
    .param "Action" o.name ::
      (m.apiVersion.map fun v => Setup.param "Version" v).toList ++
      (m.targetPrefix.map fun t => Setup.header "X-Amz-Target" s!"{t}.{o.name}").toList ++
      (m.jsonVersion.map fun v =>
        Setup.header "Content-Type" s!"application/x-amz-json-{v}").toList

def method (o : Operation) : Except Error Method := do
  let name ← ctx.names.snakeName o.name
  let input ← o.input.mapM ctx.names.typeName
  let output ← o.output.mapM fun shapeName => do
    let shape ← ctx.shape shapeName
    let type ← ctx.names.typeName shape.name
    .ok { type, shape := shape.name }
  .ok { docs := Docs.ofOptional o.documentation, name, operation := o.name, http := o.method,
        uri := o.requestUri, setup := ctx.setup o, input, output }

def client : Except Error Client := do
  let title := ctx.service.metadata.serviceFullName.getD ctx.names.serviceIdent
  let methods ← ctx.service.operations.mapM ctx.method
  .ok { name := ctx.names.clientName, docs := [s!" Client for {title}."],
        endpointPrefix := ctx.service.metadata.endpointPrefix, methods }

def plan : Except Error Module := do
  let shapes ← ctx.service.shapes.mapM ctx.shapePlan
  let client ← ctx.client
  .ok { protocol := ctx.protocol, shapes, client }

end Context
end ServiceClient.Generator
