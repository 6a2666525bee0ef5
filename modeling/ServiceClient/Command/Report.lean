import ServiceClient.Generator.Error
import ServiceClient.Schema.LoadError
import ServiceClient.Text.Quoted

/-! How the command line reports a failure: the name of its cause, with the facts about it
quoted. -/

namespace ServiceClient.Command
open ServiceClient.Schema

/-- Why a run ends without output. -/
inductive Failure where
  | load (e : LoadError)
  | generate (e : Generator.Error)
  /-- The path at which writing failed. -/
  | write (path : String)
  deriving DecidableEq

/-- A cause and its one fact. -/
def single (cause fact : String) : String :=
  cause ++ "(" ++ Text.quoted fact ++ ")"

/-- A cause and its facts by name. -/
def record (cause : String) (facts : List (String × String)) : String :=
  let each := facts.map fun (name, fact) => name ++ ": " ++ Text.quoted fact
  cause ++ " \x7b " ++ String.intercalate ", " each ++ " \x7d"

def loadReport : LoadError → String
  | .unreadable reason => single "Json" (reason.message?.getD "")
  | .noSuchFile path => record "Io" [("path", path)]
  | .unknownShapeKind shape kind => record "UnknownShapeKind" [("shape", shape), ("kind", kind)]
  | .missingPart shape kind part =>
    record "MissingShapeField" [("shape", shape), ("kind", kind), ("field", part)]
  | .danglingReference owner reference =>
    record "DanglingReference" [("owner", owner), ("reference", reference)]
  | .unknownRequiredMember shape member =>
    record "UnknownRequiredMember" [("shape", shape), ("member", member)]
  | .unknownPayloadMember shape member =>
    record "UnknownPayloadMember" [("shape", shape), ("member", member)]
  | .duplicateMember shape member =>
    record "DuplicateMember" [("shape", shape), ("member", member)]
  | .unknownLocation shape member location =>
    record "UnknownLocation" [("shape", shape), ("member", member), ("location", location)]
  | .unknownHttpMethod operation method =>
    record "UnknownHttpMethod" [("operation", operation), ("method", method)]

def generateReport : Generator.Error → String
  | .badConfig reason => single "ConfigError" reason.message
  | .undefinedShape name => single "CodeGenError" (Generator.Error.undefinedText name)
  | .unsupportedProtocol name => single "UnsupportedProtocol" name
  | .invalidIdentifier name reason =>
    record "InvalidIdentifier" [("name", name), ("reason", reason.message)]
  | .nameCollision first second typeName =>
    record "NameCollision" [("first", first), ("second", second), ("rust_name", typeName)]
  | .fieldCollision shape first second fieldName =>
    record "FieldCollision"
      [("shape", shape), ("first", first), ("second", second), ("field", fieldName)]
  | .wireNameCollision shape first second wireName =>
    record "WireNameCollision"
      [("shape", shape), ("first", first), ("second", second), ("wire_name", wireName)]
  | .methodCollision first second method =>
    record "MethodCollision" [("first", first), ("second", second), ("method", method)]
  | .unsupportedLocation shape member location target =>
    record "UnsupportedLocation"
      [("shape", shape), ("member", member), ("location", location), ("target", target)]
  | .invalidMapKey shape key => record "InvalidMapKey" [("shape", shape), ("key", key)]
  | .recursiveShape shape path =>
    record "RecursiveShape" [("shape", shape), ("path", Generator.Error.pathText path)]
  | .missingCodec owner referenced codec =>
    record "MissingCodec" [("shape", owner), ("referenced", referenced), ("codec", codec.word)]

namespace Failure

def report : Failure → String
  | load e => "Schema(" ++ loadReport e ++ ")"
  | generate e => generateReport e
  | write path => record "WriteError" [("path", path)]

end Failure
end ServiceClient.Command
