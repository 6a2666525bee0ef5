import ServiceClient.Text.Utf8

/-! Responses as they arrive: a status, headers and the bytes of the body. -/

namespace ServiceClient.Wire

abbrev Headers := List (String × String)

/-- The characters of HTTP tokens, which name headers and methods. -/
def isTokenChar (c : Char) : Bool :=
  c.isAlphanum || "!#$%&'*+-.^_`|~".toList.contains c

def isToken (s : String) : Bool :=
  !s.isEmpty && s.toList.all isTokenChar

/-- Printable ASCII and the tab. -/
def isPlainChar (c : Char) : Bool :=
  (' ' ≤ c && c ≤ '~') || c == '\t'

/-- The first value under `name`, in any case. One with characters that are not plain counts as
absent. -/
def headerText (headers : Headers) (name : String) : Option String :=
  if isToken name then
    ((headers.find? fun h => h.1.toLower == name.toLower).map (·.2)).filter
      (·.toList.all isPlainChar)
  else none

structure Response where
  status : Nat
  headers : Headers := []
  body : List UInt8
  deriving DecidableEq

namespace Response

def isSuccess (r : Response) : Bool :=
  200 ≤ r.status && r.status < 300

/-- The body as text, ill-formed parts replaced. -/
def bodyText (r : Response) : String :=
  Text.Utf8.decodeLossy r.body

end Response
end ServiceClient.Wire
