import ServiceClient.Json.Reader
import ServiceClient.Schema.Shape

/-! What can be wrong with a service description. Each error names the shape, member or operation at
fault. -/

namespace ServiceClient.Schema

inductive LoadError where
  /-- The text is no service description. -/
  | unreadable (reason : Json.ReadError)
  | noSuchFile (path : String)
  | unknownShapeKind (shape kind : String)
  | missingPart (shape kind part : String)
  | danglingReference (owner reference : String)
  | unknownRequiredMember (shape member : String)
  | unknownPayloadMember (shape member : String)
  | duplicateMember (shape member : String)
  | unknownLocation (shape member location : String)
  | unknownHttpMethod (operation method : String)
  deriving DecidableEq

namespace LoadError

/-- Whether the error points at a reference and not at the form of the document. -/
def isReferenceError : LoadError → Bool
  | danglingReference .. | unknownRequiredMember .. | unknownPayloadMember .. => true
  | _ => false

/-- The text of an error that does not stem from the reading of the document itself. -/
def message : LoadError → String
  | unreadable reason => "Failed to parse service description: " ++ reason.message?.getD ""
  | noSuchFile path => s!"Failed to read service description '{path}'"
  | unknownShapeKind shape kind =>
    s!"Shape '{shape}' has unrecognised type '{kind}'. Supported types are: string, timestamp, " ++
      "integer, long, float, double, blob, boolean, structure, list, map"
  | missingPart shape kind part =>
    s!"Shape '{shape}' of type {kind} is missing its '{part}' definition"
  | danglingReference owner reference =>
    s!"'{owner}' references shape '{reference}' which is not defined"
  | unknownRequiredMember shape member =>
    s!"Shape '{shape}' marks '{member}' as required but has no such member"
  | unknownPayloadMember shape member =>
    s!"Shape '{shape}' uses '{member}' as its payload but has no such member"
  | duplicateMember shape member => s!"Shape '{shape}' declares member '{member}' more than once"
  | unknownLocation shape member location =>
    s!"Member '{member}' of shape '{shape}' has unsupported location '{location}' " ++
      "(expected header, uri, querystring or payload)"
  | unknownHttpMethod operation method =>
    s!"Operation '{operation}' uses unsupported HTTP method '{method}'"

end LoadError
end ServiceClient.Schema
