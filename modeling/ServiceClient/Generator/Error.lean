import ServiceClient.Generator.Config

/-! Why no code is generated for a service. Each error names the shape, member or operation at
fault, and nothing is written after one. -/

namespace ServiceClient.Generator

/-- Why a schema name has no identifier. -/
inductive Refusal where
  /-- No letter or digit is left; `subject` says whose name it is. -/
  | nothingLeft (subject : String)
  | keyword (identifier : String)
  | misspelt (identifier : String)
  deriving DecidableEq

namespace Refusal

def message : Refusal → String
  | nothingLeft subject => s!"{subject} has no letters or digits"
  | keyword identifier =>
    s!"'{identifier}' is not a valid identifier " ++
      s!"(expected identifier, found keyword `{identifier}`)"
  | misspelt identifier => s!"'{identifier}' is not a valid identifier (expected identifier)"

end Refusal

inductive Codec where
  | encoder
  | decoder
  deriving DecidableEq

def Codec.word : Codec → String
  | encoder => "encoder"
  | decoder => "decoder"

inductive Error where
  | badConfig (reason : ConfigError)
  | undefinedShape (name : String)
  | unsupportedProtocol (name : String)
  | invalidIdentifier (name : String) (reason : Refusal)
  /-- Two shapes, or a shape and the client, make the same type name. -/
  | nameCollision (first second typeName : String)
  | fieldCollision (shape first second fieldName : String)
  | wireNameCollision (shape first second wireName : String)
  | methodCollision (first second method : String)
  /-- A member outside the body references a shape that is not primitive. -/
  | unsupportedLocation (shape member location target : String)
  | invalidMapKey (shape key : String)
  /-- A structure holds itself by value; `path` leads from the shape back to it. -/
  | recursiveShape (shape : String) (path : List String)
  | missingCodec (owner referenced : String) (codec : Codec)
  deriving DecidableEq

namespace Error

def pathText (path : List String) : String :=
  String.intercalate " -> " path

def undefinedText (name : String) : String :=
  s!"shape '{name}' is not defined"

def message : Error → String
  | badConfig reason => "Invalid configuration: " ++ reason.message
  | undefinedShape name => "Code generation failed: " ++ undefinedText name
  | unsupportedProtocol name =>
    s!"Unsupported protocol '{name}'. Supported protocols are: rest-xml, json"
  | invalidIdentifier name reason =>
    s!"'{name}' cannot be used as a Rust identifier: " ++ reason.message
  | nameCollision first second typeName =>
    s!"Shapes '{first}' and '{second}' both generate the type '{typeName}'"
  | fieldCollision shape first second fieldName =>
    s!"Members '{first}' and '{second}' of shape '{shape}' both generate the field '{fieldName}'"
  | wireNameCollision shape first second wireName =>
    s!"Members '{first}' and '{second}' of shape '{shape}' share the wire-name '{wireName}'"
  | methodCollision first second method =>
    s!"Operations '{first}' and '{second}' both generate the method '{method}'"
  | unsupportedLocation shape member location target =>
    s!"Member '{member}' of shape '{shape}' is placed in the {location} but references " ++
      s!"non-primitive shape '{target}'"
  | invalidMapKey shape key =>
    s!"Map '{shape}' has key shape '{key}' which is not a string, integer, long, boolean, " ++
      "timestamp or blob"
  | recursiveShape shape path =>
    s!"Shape '{shape}' contains itself without an intervening list or map: " ++ pathText path
  | missingCodec owner referenced codec =>
    s!"Shape '{owner}' needs a {codec.word} for '{referenced}', which is not generated for it"

end Error
end ServiceClient.Generator
