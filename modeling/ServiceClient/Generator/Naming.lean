import ServiceClient.Code.Identifier
import ServiceClient.Generator.Error
import ServiceClient.Schema.Service
import ServiceClient.Text.Case

/-! Identifiers for schema names. Members and operations become snake case fields and methods, with
the configured prefix where the result is a keyword or starts with a digit. Shapes become Pascal
case types, with the service identifier in front where the name is reserved; a string shape called
`String` keeps its name and gets no type of its own. -/

namespace ServiceClient.Generator
open ServiceClient.Schema

def checkIdentifier (name identifier : String) : Except Error String :=
  if Code.refusedKeyword identifier then .error (.invalidIdentifier name (.keyword identifier))
  else if Code.spellsIdentifier identifier then .ok identifier
  else .error (.invalidIdentifier name (.misspelt identifier))

/-- Drops every copy of `lead` that the text starts with. -/
def dropLeads (lead : List Char) : Nat → List Char → List Char
  | 0, s => s
  | n + 1, s => if lead.isPrefixOf s then dropLeads lead n (s.drop lead.length) else s

/-- A service abbreviation without its vendor's name. -/
def plainAbbreviation (s : String) : String :=
  let chars := s.toList
  let chars := dropLeads "Amazon".toList chars.length chars
  let chars := dropLeads "AWS".toList chars.length chars
  String.ofList (Text.trimChars chars)

/-- The name that the service identifier is made of: the override, else the service id, else the
abbreviation. One without letters and digits gives way to the endpoint prefix. -/
def serviceName (m : Metadata) (override : Option String) : String :=
  let named := (override.or m.serviceId).or (m.serviceAbbreviation.map plainAbbreviation)
  (named.filter fun name => Text.pascalCase name != "").getD m.endpointPrefix

def serviceIdentifier (m : Metadata) (override : Option String) : Except Error String :=
  let name := serviceName m override
  let identifier := Text.pascalCase name
  if identifier = "" then .error (.invalidIdentifier name (.nothingLeft "service name"))
  else checkIdentifier name identifier

/-- Whether the shape is the text type of generated code itself. -/
def isNativeString (s : Shape) : Bool :=
  Text.pascalCase s.name == "String" && s.primitive? == some .string

/-- Resolves the names of one service. -/
structure Names where
  service : Service
  config : Config
  serviceIdent : String

namespace Names

def new (service : Service) (config : Config) : Except Error Names := do
  let serviceIdent ← serviceIdentifier service.metadata config.serviceName
  .ok { service, config, serviceIdent }

def clientName (n : Names) : String :=
  n.serviceIdent ++ "Client"

def startsWithDigit (s : String) : Bool :=
  s.toList.head?.any Char.isDigit

/-- The type name of a shape before it is checked. -/
def typeIdent (n : Names) (shapeName : String) : String :=
  let pascal := Text.pascalCase shapeName
  if (n.service.shape? shapeName).any isNativeString then pascal
  else if pascal == "String" || n.config.isReserved pascal || startsWithDigit pascal then
    n.serviceIdent ++ pascal
  else pascal

def typeName (n : Names) (shapeName : String) : Except Error String :=
  if Text.pascalCase shapeName = "" then
    .error (.invalidIdentifier shapeName (.nothingLeft "shape name"))
  else checkIdentifier shapeName (n.typeIdent shapeName)

def encoderName (n : Names) (shapeName : String) : Except Error String :=
  (n.typeName shapeName).map (· ++ "Encoder")

def decoderName (n : Names) (shapeName : String) : Except Error String :=
  (n.typeName shapeName).map (· ++ "Decoder")

/-- The name of a field or method. -/
def snakeName (n : Names) (name : String) : Except Error String :=
  let snake := Text.snakeCase name
  if snake.toList.all (· == '_') then .error (.invalidIdentifier name (.nothingLeft "name"))
  else
    let clashes := Code.isKeyword snake || startsWithDigit snake
    checkIdentifier name (if clashes then n.config.fieldPrefix ++ snake else snake)

end Names
end ServiceClient.Generator
