import ServiceClient.Data.SortedMap

/-! Settings shared by every stage of the generator. -/

namespace ServiceClient.Generator

/-- Shape names that would hide a name that generated code refers to. -/
def defaultReserved : List String :=
  ["Message", "Error",
    "Result", "Option", "Some", "None", "Ok", "Err", "Vec", "Box", "Default", "Clone", "Debug",
    "PartialEq", "Send", "Sync", "Sized", "Iterator", "ToString", "From", "Into", "Self",
    "BTreeMap", "DispatchError", "DispatchRequest", "HeaderMap", "HttpResponse", "JsonValue",
    "Merge", "OperationError", "Params", "ParseError", "ReqwestDispatcher", "Scalar",
    "ServiceRequest", "XmlReader"]

structure Config where
  /-- Shape names that get the service identifier in front; ascending, without repetition. -/
  reservedNames : List String := SortedMap.nameSet defaultReserved
  /-- Stands before identifiers that are keywords or start with a digit. -/
  fieldPrefix : String := "field_"
  /-- Shapes whose name ends with this get no decoder. -/
  requestSuffix : String := "Request"
  /-- Shapes whose name ends with one of these get no encoder. -/
  responseSuffixes : List String := ["Output", "Result"]
  /-- In place of the service identifier that the metadata gives. -/
  serviceName : Option String := none
  /-- In place of the protocol that the metadata names. -/
  protocol : Option String := none
  deriving DecidableEq

inductive ConfigError where
  | badFieldPrefix (text : String)
  | badSuffix (text : String)
  deriving DecidableEq

namespace ConfigError

def message : ConfigError → String
  | badFieldPrefix text =>
    s!"field prefix '{text}' must start with a letter or underscore and contain only letters, " ++
      "digits and underscores"
  | badSuffix text => s!"shape suffix '{text}' must contain only letters and digits"

end ConfigError

namespace Config

def withReserved (c : Config) (names : List String) : Config :=
  { c with reservedNames := SortedMap.nameSet (c.reservedNames ++ names) }

def isReserved (c : Config) (name : String) : Bool :=
  c.reservedNames.contains name

def endsWith (name suffix : String) : Bool :=
  suffix.toList.isSuffixOf name.toList

/-- Whether the shape called `name` gets no decoder. -/
def isRequestOnly (c : Config) (name : String) : Bool :=
  c.requestSuffix != "" && endsWith name c.requestSuffix

/-- Whether the shape called `name` gets no encoder. -/
def isResponseOnly (c : Config) (name : String) : Bool :=
  c.responseSuffixes.any fun suffix => suffix != "" && endsWith name suffix

def prefixOk (text : String) : Bool :=
  match text.toList with
  | [] => false
  | c :: s => (c.isAlpha || c == '_') && s.all fun d => d.isAlphanum || d == '_'

def validate (c : Config) : Except ConfigError Unit :=
  if !prefixOk c.fieldPrefix then .error (.badFieldPrefix c.fieldPrefix)
  else
    match (c.requestSuffix :: c.responseSuffixes).find? (!·.toList.all Char.isAlphanum) with
    | some suffix => .error (.badSuffix suffix)
    | none => .ok ()

end Config
end ServiceClient.Generator
