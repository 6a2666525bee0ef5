import ServiceClient.Client.Error
import ServiceClient.Http.Address
import ServiceClient.Text.Base64
import ServiceClient.Wire.Request

/-! Sending requests over HTTP. A request goes to the endpoint, if one is set, or else to its own
host; parameters are added to the query, and the payload is the body. -/

namespace ServiceClient.Http
open ServiceClient.Client ServiceClient.Wire

/-- A request on its way. -/
structure Outgoing where
  method : String
  target : String
  headers : List (String × String)
  body : List UInt8
  deriving DecidableEq

def withoutSlashes (endpoint : String) : String :=
  String.ofList (endpoint.toList.reverse.dropWhile (· == '/')).reverse

/-- Where a request goes, before its parameters are added. -/
def addressText (endpoint : Option String) (r : Request) : String :=
  match endpoint with
  | some endpoint => withoutSlashes endpoint ++ r.resolvedPath
  | none => "https://" ++ r.hostname ++ r.resolvedPath

/-- Control characters other than the tab have no place in a header. -/
def isHeaderChar (c : Char) : Bool :=
  c == '\t' || (' ' ≤ c && c != '\x7f')

def isHeader (header : String × String) : Bool :=
  isToken header.1 && header.2.toList.all isHeaderChar

/-- A header value loses the blanks around it on the way. -/
def trimValue (s : String) : String :=
  let blank := fun c : Char => c == ' ' || c == '\t'
  String.ofList ((s.toList.dropWhile blank).reverse.dropWhile blank).reverse

/-- What introduces the user that an address names. -/
def userHeaders (a : Authority) : List (String × String) :=
  match a.user with
  | some user => [("authorization", "Basic " ++ Text.Base64.encodeText (Text.utf8 user))]
  | none => []

/-- What a request asks for; one for a tunnel asks for its other end. -/
def targetFor (method : String) (a : Address) : String :=
  if method = "CONNECT" then String.ofList a.authority.text else a.target

/-- What is sent for a request, unless it is refused before. -/
def outgoing (endpoint : Option String) (r : Request) : Except DispatchError Outgoing :=
  if !isToken r.method then .error (.invalidMethod r.method)
  else
    match Address.ofText? (addressText endpoint r) with
    | none => .error (.http false)
    | some address =>
      if r.headers.all isHeader then
        .ok { method := r.method, target := targetFor r.method (address.addPairs r.params),
              headers := userHeaders address.authority ++
                r.headers.map fun (name, value) => (name.toLower, trimValue value),
              body := r.payload.getD [] }
      else .error (.http false)

/-- Whether a response to the method has a body at all. What follows the opening of a tunnel is
none. -/
def hasBody (method : String) (status : Nat) : Bool :=
  method != "HEAD" && status != 101 && status != 204 && status != 304 &&
    !(method = "CONNECT" && 200 ≤ status && status < 300)

/-- Whether a response only announces another one. -/
def isInterim (status : Nat) : Bool :=
  100 ≤ status && status < 200 && status != 101

/-- What comes of the only response of a peer. -/
def received (o : Outgoing) (r : Response) : Except DispatchError Response :=
  if isInterim r.status then .error (.http false)
  else .ok { r with body := if hasBody o.method r.status then r.body else [] }

structure Exchange where
  /-- What reached the peer. -/
  sent : Option Outgoing
  result : Except DispatchError Response

/-- Sends a request. Without a `peer` nothing listens at the other end. -/
def send (endpoint : Option String) (peer : Option (Outgoing → Response)) (r : Request) :
    Exchange :=
  match outgoing endpoint r with
  | .error e => { sent := none, result := .error e }
  | .ok o =>
    match peer with
    | none => { sent := none, result := .error (.http true) }
    | some answer => { sent := some o, result := received o (answer o) }

end ServiceClient.Http
