import ServiceClient.Json.Reader

/-! A service description as written: entries of its tables in document order, names and words not
yet checked. -/

namespace ServiceClient.Schema
open ServiceClient.Json

structure Metadata where
  endpointPrefix : String
  protocol : Option String := none
  apiVersion : Option String := none
  serviceFullName : Option String := none
  serviceAbbreviation : Option String := none
  serviceId : Option String := none
  /-- Stands before the operation in the target header of JSON services. -/
  targetPrefix : Option String := none
  /-- Version in the content type of JSON services. -/
  jsonVersion : Option String := none
  deriving DecidableEq, Repr

structure MemberEntry where
  shape : String
  location : Option String := none
  locationName : Option String := none
  documentation : Option String := none

structure ShapeEntry where
  type : String
  members : List (String × MemberEntry) := []
  required : List String := []
  payload : Option String := none
  member : Option MemberEntry := none
  key : Option MemberEntry := none
  value : Option MemberEntry := none
  documentation : Option String := none

structure HttpEntry where
  method : String := "POST"
  requestUri : String := "/"

structure OperationEntry where
  http : HttpEntry := {}
  input : Option String := none
  output : Option String := none
  documentation : Option String := none

structure Document where
  metadata : Metadata
  operations : List (String × OperationEntry) := []
  shapes : List (String × ShapeEntry) := []

/-- A field that may be missing, with its place in the record. -/
def optionalField {σ α : Type} (name : String) (read : Reader α) (set : σ → α → σ) :
    RecordField σ :=
  ⟨name, false, fun record t => set record <$> read t⟩

def requiredField {σ α : Type} (name : String) (read : Reader α) (set : σ → α → σ) :
    RecordField σ :=
  ⟨name, true, fun record t => set record <$> read t⟩

def Metadata.read : Reader Metadata :=
  let text := readOptional readText
  readRecord "Metadata"
    [requiredField "endpointPrefix" readText fun m v => { m with endpointPrefix := v },
      optionalField "protocol" text fun m v => { m with protocol := v },
      optionalField "apiVersion" text fun m v => { m with apiVersion := v },
      optionalField "serviceFullName" text fun m v => { m with serviceFullName := v },
      optionalField "serviceAbbreviation" text fun m v => { m with serviceAbbreviation := v },
      optionalField "serviceId" text fun m v => { m with serviceId := v },
      optionalField "targetPrefix" text fun m v => { m with targetPrefix := v },
      optionalField "jsonVersion" text fun m v => { m with jsonVersion := v }]
    { endpointPrefix := "" }

def MemberEntry.read : Reader MemberEntry :=
  let text := readOptional readText
  readRecord "RawMember"
    [requiredField "shape" readText fun m v => { m with shape := v },
      optionalField "location" text fun m v => { m with location := v },
      optionalField "locationName" text fun m v => { m with locationName := v },
      optionalField "documentation" text fun m v => { m with documentation := v }]
    { shape := "" }

/-- The members of a structure, in document order and with repetitions. -/
def readMembers : Reader (List (String × MemberEntry)) :=
  readEntries "a JSON object" MemberEntry.read

def ShapeEntry.read : Reader ShapeEntry :=
  let text := readOptional readText
  let part := readOptional MemberEntry.read
  readRecord "RawShape"
    [requiredField "type" readText fun s v => { s with type := v },
      optionalField "members" (readOptional readMembers) fun s v =>
        { s with members := v.getD [] },
      optionalField "required" (readList readText) fun s v => { s with required := v },
      optionalField "payload" text fun s v => { s with payload := v },
      optionalField "member" part fun s v => { s with member := v },
      optionalField "key" part fun s v => { s with key := v },
      optionalField "value" part fun s v => { s with value := v },
      optionalField "documentation" text fun s v => { s with documentation := v }]
    { type := "" }

def HttpEntry.read : Reader HttpEntry :=
  readRecord "RawHttp"
    [optionalField "method" readText fun h v => { h with method := v },
      optionalField "requestUri" readText fun h v => { h with requestUri := v }]
    {}

def readShapeName : Reader String :=
  readRecord "RawShapeRef" [requiredField "shape" readText fun _ v => v] ""

def OperationEntry.read : Reader OperationEntry :=
  readRecord "RawOperation"
    [optionalField "http" HttpEntry.read fun o v => { o with http := v },
      optionalField "input" (readOptional readShapeName) fun o v => { o with input := v },
      optionalField "output" (readOptional readShapeName) fun o v => { o with output := v },
      optionalField "documentation" (readOptional readText) fun o v =>
        { o with documentation := v }]
    {}

def Document.read : Reader Document :=
  readRecord "RawService"
    [requiredField "metadata" Metadata.read fun d v => { d with metadata := v },
      optionalField "operations" (readEntries "a map" OperationEntry.read) fun d v =>
        { d with operations := v },
      optionalField "shapes" (readEntries "a map" ShapeEntry.read) fun d v =>
        { d with shapes := v }]
    { metadata := { endpointPrefix := "" } }

def Document.parse (text : String) : Except ReadError Document :=
  readBytes Document.read (Text.utf8 text)

end ServiceClient.Schema
