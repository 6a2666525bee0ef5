import ServiceClient.Json.Value
import ServiceClient.Markup.Event
import ServiceClient.Schema.Shape

/-! The reasons why a response cannot be decoded into the shape that an operation promises. -/

namespace ServiceClient.Wire
open ServiceClient.Schema

/-- What a decoder wants to meet in a document. -/
inductive Expectation where
  | opening (name : String)
  | closing (name : String)
  | text
  | element
  deriving DecidableEq

def Expectation.describe : Expectation → String
  | opening name => name
  | closing name => "/" ++ name
  | text => "text"
  | element => "an element"

/-- What a decoder accepts in a JSON value, where it wants one sort of it. -/
inductive Acceptable where
  | text
  | number
  | boolean
  | base64
  | array
  | object
  deriving DecidableEq

def Acceptable.noun : Acceptable → String
  | text => "a string"
  | number => "a number"
  | boolean => "a boolean"
  | base64 => "a base64 string"
  | array => "an array"
  | object => "an object"

inductive ParseError where
  /-- `found` is absent at the end of the document. -/
  | unexpectedElement (expected : Expectation) (found : Option Markup.Event)
  /-- The document ends before the element does. -/
  | unclosedElement (name : String)
  | missingField (parent field : String)
  | invalidValue (field value : String) (kind : PrimitiveKind)
  | unexpectedType (field : String) (expected : Acceptable) (found : Json.Kind)
  | malformedXml
  | malformedJson
  deriving DecidableEq

namespace ParseError

/-- What the text of a value is called. -/
def kindNoun : PrimitiveKind → String
  | .blob => "base64 blob"
  | kind => kind.word

/-- Malformed documents have no message of their own. -/
def message? : ParseError → Option String
  | unexpectedElement expected found =>
    let met := (found.map Markup.Event.describe).getD "end of document"
    some ("Expected element <" ++ expected.describe ++ ">, found " ++ met)
  | unclosedElement name =>
    some ("Element <" ++ name ++ "> is not closed before the end of the document")
  | missingField parent field =>
    some ("Missing required field '" ++ field ++ "' in '" ++ parent ++ "'")
  | invalidValue field value kind =>
    some ("Invalid value for '" ++ field ++ "': '" ++ value ++ "' is not a valid " ++ kindNoun kind)
  | unexpectedType field expected found =>
    some ("Field '" ++ field ++ "' should be " ++ expected.noun ++ " but is " ++ found.noun)
  | malformedXml => none
  | malformedJson => none

end ParseError
end ServiceClient.Wire
