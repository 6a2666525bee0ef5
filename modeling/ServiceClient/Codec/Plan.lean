import ServiceClient.Schema.Operation
import ServiceClient.Schema.Protocol
import ServiceClient.Schema.Shape

/-! What a client module consists of, every name resolved: type declarations, encoders, decoders and
operation methods. A plan is both printed as code and run; codecs refer to each other by the names
of their types. -/

namespace ServiceClient.Codec
open ServiceClient.Schema

/-- Where an encoder writes a member. -/
inductive Target where
  | header (wire : String)
  | pathParam (wire : String)
  | queryParam (wire : String)
  | rawPayload
  /-- Parameters below `wire`, written by the encoder of the given type. -/
  | nested (type wire : String)
  deriving DecidableEq

structure FieldWrite where
  field : String
  required : Bool
  target : Target
  deriving DecidableEq

inductive EncoderBody where
  | scalar
  | list (element : String)
  | map (key value keyWire valueWire : String)
  | struct (fields : List FieldWrite)
  deriving DecidableEq

structure Encoder where
  type : String
  body : EncoderBody
  deriving DecidableEq

/-- Where a decoder finds a member. -/
inductive Source where
  /-- `kind` is that of the member's shape, which ought to be primitive. -/
  | header (kind : Option PrimitiveKind)
  /-- The part of the body named as the member. For a list in a wrapper of its own, `element` names
  the parts of the wrapper. -/
  | body (element : Option String)
  deriving DecidableEq

structure FieldRead where
  field : String
  wire : String
  type : String
  required : Bool
  /-- Lists and maps may be met more than once, and are empty when required and absent. -/
  collection : Option Collection
  source : Source
  deriving DecidableEq

namespace FieldRead

/-- The variable that holds the member while the body is read. -/
def slot (f : FieldRead) : String :=
  "slot_" ++ f.field

def isHeader (f : FieldRead) : Bool :=
  match f.source with
  | .header _ => true
  | .body _ => false

/-- Whether the part of the body with that name is the member. -/
def isPart (f : FieldRead) (wire : String) : Bool :=
  !f.isHeader && f.wire == wire

end FieldRead

inductive DecoderBody where
  | scalar (kind : PrimitiveKind)
  | list (element : String)
  | map (key value keyWire valueWire : String)
  /-- `shape` is the schema name, for messages. -/
  | struct (shape : String) (fields : List FieldRead)
  deriving DecidableEq

structure Decoder where
  type : String
  body : DecoderBody
  deriving DecidableEq

structure FieldDeclaration where
  docs : List String
  name : String
  type : String
  required : Bool
  deriving DecidableEq

/-- What a shape other than a structure is another name for. -/
inductive Alias where
  | primitive (kind : PrimitiveKind)
  | list (element : String)
  | map (key value : String)
  deriving DecidableEq

inductive TypeBody where
  | alias (target : Alias)
  | struct (fields : List FieldDeclaration)
  deriving DecidableEq

structure Declaration where
  docs : List String
  name : String
  body : TypeBody
  deriving DecidableEq

/-- What is generated for one shape. Text needs no declaration of its own. -/
structure ShapePlan where
  decoder : Option Decoder
  declaration : Option Declaration
  encoder : Option Encoder
  deriving DecidableEq

/-- A step that every request of a method starts with. -/
inductive Setup where
  | param (name value : String)
  | header (name value : String)
  deriving DecidableEq

structure Output where
  type : String
  /-- Schema name, for the document element and for messages. -/
  shape : String
  deriving DecidableEq

structure Method where
  docs : List String
  name : String
  /-- Schema name. -/
  operation : String
  http : HttpMethod
  uri : String
  setup : List Setup
  input : Option String
  output : Option Output
  deriving DecidableEq

structure Client where
  name : String
  docs : List String
  endpointPrefix : String
  methods : List Method
  deriving DecidableEq

structure Module where
  protocol : Protocol
  /-- In the order of the shapes' schema names. -/
  shapes : List ShapePlan
  client : Client
  deriving DecidableEq

namespace Module

def encoder? (m : Module) (type : String) : Option Encoder :=
  m.shapes.findSome? fun s => s.encoder.filter (·.type == type)

def decoder? (m : Module) (type : String) : Option Decoder :=
  m.shapes.findSome? fun s => s.decoder.filter (·.type == type)

def declaration? (m : Module) (type : String) : Option Declaration :=
  m.shapes.findSome? fun s => s.declaration.filter (·.name == type)

def method? (m : Module) (operation : String) : Option Method :=
  m.client.methods.find? (·.operation == operation)

end Module
end ServiceClient.Codec
