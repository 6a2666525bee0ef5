import ServiceClient.Wire.ParseError
import ServiceClient.Wire.Response

/-! Failures of an operation: no response, a response that cannot be decoded, or one with an error
status. -/

namespace ServiceClient.Client
open ServiceClient.Wire

/-- Reasons why there is no response at all. -/
inductive DispatchError where
  /-- The HTTP exchange failed; `connecting` when the peer could not be reached. -/
  | http (connecting : Bool)
  | invalidMethod (method : String)
  /-- A failure of a transport other than HTTP. -/
  | transport (reason : String)
  deriving DecidableEq

namespace DispatchError

/-- Whether the same request may succeed later. -/
def isRetryable : DispatchError → Bool
  | http connecting => connecting
  | invalidMethod _ => false
  | transport _ => true

def message? : DispatchError → Option String
  | http _ => none
  | invalidMethod method => some ("Invalid HTTP method '" ++ method ++ "'")
  | transport reason => some ("Transport failed: " ++ reason)

end DispatchError

inductive OperationError where
  | dispatch (e : DispatchError)
  | parse (e : ParseError)
  | service (operation : String) (status : Nat) (body : String)
  deriving DecidableEq

namespace OperationError

/-- The error for a response that does not report success. -/
def ofResponse (operation : String) (r : Response) : OperationError :=
  service operation r.status r.bodyText

def statusCode? : OperationError → Option Nat
  | service _ status _ => some status
  | _ => none

def message? : OperationError → Option String
  | dispatch e => e.message?
  | parse e => e.message?
  | service operation status body =>
    some (operation ++ " failed with HTTP " ++ toString status ++ ": " ++ body)

end OperationError
end ServiceClient.Client
