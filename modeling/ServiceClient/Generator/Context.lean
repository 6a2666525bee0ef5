import ServiceClient.Generator.Naming
import ServiceClient.Schema.Protocol

/-! A service with its protocol and names settled, and the facts about its members that encoders and
decoders share. -/

namespace ServiceClient.Generator
open ServiceClient.Schema

structure Context where
  service : Service
  config : Config
  protocol : Protocol
  names : Names

/-- One structure member with everything resolved. -/
structure MemberPlan where
  name : String
  member : Member
  target : Shape
  field : String
  wire : String
  type : String
  required : Bool

/-- The wire name of a list element: its own, else that of its shape. -/
def elementWireName (element : Member) : String :=
  element.locationName.getD element.shape

def keyWireName (key : Member) : String :=
  key.locationName.getD "key"

def valueWireName (value : Member) : String :=
  value.locationName.getD "value"

namespace MemberPlan

def isHeader (p : MemberPlan) : Bool :=
  p.member.location == .header

/-- The wire name of the elements of a list whose own wire name differs from it, so that they sit in
a wrapper. -/
def wrappedElement? (p : MemberPlan) : Option String := do
  let element ← p.target.element?
  if p.member.locationName.isSome && elementWireName element != p.wire then
    some (elementWireName element)
  else none

end MemberPlan

namespace Context

/-- The protocol is the configured one, else that of the metadata. -/
def protocolOf (service : Service) (config : Config) : Except Error Protocol :=
  match config.protocol.or service.metadata.protocol with
  | none => .error (.unsupportedProtocol "(none)")
  | some word =>
    match Protocol.ofWord? word with
    | some protocol => .ok protocol
    | none => .error (.unsupportedProtocol word)

def new (service : Service) (config : Config) : Except Error Context := do
  config.validate.mapError .badConfig
  let protocol ← protocolOf service config
  let names ← Names.new service config
  .ok { service, config, protocol, names }

variable (ctx : Context)

def shape (name : String) : Except Error Shape :=
  match ctx.service.shape? name with
  | some s => .ok s
  | none => .error (.undefinedShape name)

def hasEncoder (name : String) : Bool :=
  !ctx.config.isResponseOnly name

def hasDecoder (name : String) : Bool :=
  !ctx.config.isRequestOnly name

/-- The name that a member is written and read under: its own, for a list without one that of the
elements, which have no wrapper then, else the schema name. -/
def wireName (name : String) (m : Member) : Except Error String :=
  match m.locationName with
  | some wire => .ok wire
  | none => do
    let target ← ctx.shape m.shape
    .ok ((target.element?.map elementWireName).getD name)

def memberPlan (owner : Structure) (name : String) (m : Member) :
    Except Error MemberPlan := do
  let field ← ctx.names.snakeName name
  let target ← ctx.shape m.shape
  let wire ← ctx.wireName name m
  let type ← ctx.names.typeName m.shape
  .ok { name, member := m, target, field, wire, type, required := owner.isRequired name }

def memberPlans (s : Structure) : Except Error (List MemberPlan) :=
  s.members.mapM fun (name, m) => ctx.memberPlan s name m

/-- Whether the member is the structure's payload and travels as the raw body. -/
def isRawPayload (s : Structure) (p : MemberPlan) : Bool :=
  ctx.protocol.rawPayload && s.payload == some p.name &&
    (p.target.primitive? == some .blob || p.target.primitive? == some .string)

end Context
end ServiceClient.Generator
