import ServiceClient.Wire.Table
import ServiceClient.Wire.Template

/-! Requests under construction, and the single writes that an input value makes on one. -/

namespace ServiceClient.Wire

structure Request where
  method : String
  endpointPrefix : String
  region : String
  /-- With its placeholders. -/
  path : String
  pathParams : Table := []
  /-- In the order they were added; a name may occur again. -/
  headers : List (String × String) := []
  params : Table := []
  payload : Option (List UInt8) := none
  /-- Stands in for the host derived from endpoint prefix and region. -/
  host : Option String := none
  deriving DecidableEq

/-- One step of encoding a value into a request. -/
inductive Write where
  | header (name value : String)
  | pathParam (name value : String)
  | param (name value : String)
  | payload (bytes : List UInt8)
  deriving DecidableEq

namespace Request

def addHeader (r : Request) (name value : String) : Request :=
  { r with headers := r.headers ++ [(name, value)] }

def setPathParam (r : Request) (name value : String) : Request :=
  { r with pathParams := r.pathParams.put name value }

def putParam (r : Request) (name value : String) : Request :=
  { r with params := r.params.put name value }

def setPayload (r : Request) (bytes : List UInt8) : Request :=
  { r with payload := some bytes }

def setHost (r : Request) (host : String) : Request :=
  { r with host := some host }

def write (r : Request) : Write → Request
  | .header name value => r.addHeader name value
  | .pathParam name value => r.setPathParam name value
  | .param name value => r.putParam name value
  | .payload bytes => r.setPayload bytes

def writeAll (r : Request) (writes : List Write) : Request :=
  writes.foldl write r

/-- The first header of that name, in any case. -/
def header? (r : Request) (name : String) : Option String :=
  (r.headers.find? fun h => h.1.toLower == name.toLower).map (·.2)

def hostname (r : Request) : String :=
  r.host.getD (r.endpointPrefix ++ "." ++ r.region ++ ".amazonaws.com")

/-- The path with every bound placeholder filled. -/
def resolvedPath (r : Request) : String :=
  Template.expand r.pathParams.get? r.path

end Request
end ServiceClient.Wire
