import ServiceClient.Client.Error
import ServiceClient.Codec.Encode
import ServiceClient.Codec.FromJson
import ServiceClient.Codec.FromXml

/-! Calling an operation: the request is set up and the input encoded into it, it is dispatched
once, and the answer is told apart by its status and decoded. -/

namespace ServiceClient.Client
open ServiceClient.Codec ServiceClient.Wire

def applySetup (r : Request) : Setup → Request
  | .param name value => r.putParam name value
  | .header name value => r.addHeader name value

/-- The request of a method before its input is encoded. -/
def freshRequest (m : Module) (region : String) (op : Method) : Request :=
  op.setup.foldl applySetup
    { method := op.http.word, endpointPrefix := m.client.endpointPrefix, region, path := op.uri }

/-- The request that a method dispatches; absent where the input is not of the method's type. -/
def request? (m : Module) (region : String) (op : Method) (input : Option Codec.Value) :
    Option Request :=
  match op.input, input with
  | none, none => some (freshRequest m region op)
  | some type, some v => m.encode type "" v (freshRequest m region op)
  | _, _ => none

/-- Decodes the body of a response as the output of a method. -/
def decodeOutput (m : Module) (output : Output) (r : Response) : Codec.Outcome Codec.Value :=
  match m.protocol with
  | .restXml => do
    let events ← .ofExcept (Markup.ofResponse output.shape r.body)
    let decode := m.decodeXml r.headers output.type (Markup.rootName events)
    ExceptT.mk ((decode.run events).map (·.1))
  | .json => do
    let v ← .ofExcept ((Json.Value.ofBody r.body).mapError fun _ => ParseError.malformedJson)
    m.decodeJson r.headers output.type output.shape v

/-- What a method returns for an answer to its request. A method without output returns nothing. -/
def result? (m : Module) (op : Method) (answer : Except DispatchError Response) :
    Option (Except OperationError (Option Codec.Value)) :=
  match answer with
  | .error e => some (.error (.dispatch e))
  | .ok r =>
    if r.isSuccess then
      match op.output with
      | none => some (.ok none)
      | some output =>
        (decodeOutput m output r).run.map fun
          | .ok v => .ok (some v)
          | .error e => .error (.parse e)
    else some (.error (.ofResponse op.operation r))

/-- Calls a method with whatever sends requests. Absent where the module has no such method, the
input is not of its type, or a codec is missing. -/
def call {M : Type → Type} [Monad M] (dispatch : Request → M (Except DispatchError Response))
    (m : Module) (region : String) (operation : String) (input : Option Codec.Value) :
    M (Option (Except OperationError (Option Codec.Value))) :=
  match (m.method? operation).bind fun op => (request? m region op input).map (op, ·) with
  | none => pure none
  | some (op, request) => do
    let answer ← dispatch request
    pure (result? m op answer)

end ServiceClient.Client
