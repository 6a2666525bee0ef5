import ServiceClient.Text.Base64
import ServiceClient.Wire.ParseError

/-! Scalars: the values of primitive shapes, with their text on the wire. Numbers and truth values
are read without the white space around them, text is taken as it is, and bytes travel in base
64. -/

namespace ServiceClient.Wire
open ServiceClient.Number ServiceClient.Schema

inductive Scalar where
  | text (s : String)
  | integer (n : Int32)
  | long (n : Int64)
  | float (x : Single)
  | double (x : Double)
  | boolean (b : Bool)
  | blob (bytes : List UInt8)
  deriving DecidableEq

namespace Scalar

/-- What `s`, without the white space around it, denotes as a scalar of that kind. -/
def read? (kind : PrimitiveKind) (s : List Char) : Option Scalar :=
  match kind with
  | .string | .timestamp => some (text (String.ofList s))
  | .integer => (word? 32 s).map fun n => integer (Int32.ofInt n)
  | .long => (word? 64 s).map fun n => long (Int64.ofInt n)
  | .float => (binary? .single s).map float
  | .double => (binary? .double s).map double
  | .boolean =>
    if s = "true".toList then some (boolean true)
    else if s = "false".toList then some (boolean false)
    else none
  | .blob => (Text.Base64.decode s).map blob

/-- Reads the text of an element or a header. `field` names the value in errors. -/
def ofText (kind : PrimitiveKind) (field s : String) : Except ParseError Scalar :=
  match kind with
  | .string | .timestamp => .ok (text s)
  | kind =>
    match read? kind (Text.trimChars s.toList) with
    | some v => .ok v
    | none => .error (.invalidValue field s kind)

/-- The value of a JSON number, if the kind has it. -/
def ofNumeral? (kind : PrimitiveKind) (n : Json.Numeral) : Option Scalar :=
  match kind, n with
  | .integer, .int n => if fits 32 n then some (integer (Int32.ofInt n)) else none
  | .long, .int n => if fits 64 n then some (long (Int64.ofInt n)) else none
  | .float, n => some (float (n.toDouble.convert .single))
  | .double, n => some (double n.toDouble)
  | _, _ => none

/-- The JSON values, other than text, that a kind is read from. -/
def acceptable : PrimitiveKind → Acceptable
  | .string | .timestamp => .text
  | .integer | .long | .float | .double => .number
  | .boolean => .boolean
  | .blob => .base64

/-- Reads a JSON value: of the sort that the kind has in JSON, or text that holds it. -/
def ofJson (kind : PrimitiveKind) (field : String) (v : Json.Value) : Except ParseError Scalar :=
  match acceptable kind, v with
  | _, .string s => ofText kind field s
  | .number, .number n =>
    match ofNumeral? kind n with
    | some v => .ok v
    | none => .error (.invalidValue field n.text kind)
  | .boolean, .bool b => .ok (boolean b)
  | wanted, v => .error (.unexpectedType field wanted v.kind)

/-- The text of a value in parameters and headers. -/
def toText : Scalar → String
  | text s => s
  | integer n => toString n.toInt
  | long n => toString n.toInt
  | float x => x.text
  | double x => x.text
  | boolean b => if b then "true" else "false"
  | blob bytes => Text.Base64.encodeText bytes

/-- The value as the raw body of a request. -/
def toBytes : Scalar → List UInt8
  | blob bytes => bytes
  | v => Text.utf8 v.toText

/-- The order of map keys, which are of one kind. -/
def lt : Scalar → Scalar → Bool
  | text a, text b => a < b
  | integer a, integer b => a < b
  | long a, long b => a < b
  | boolean a, boolean b => !a && b
  | blob a, blob b => a < b
  | _, _ => false

end Scalar
end ServiceClient.Wire
