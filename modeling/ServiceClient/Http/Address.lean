import ServiceClient.Http.Host
import ServiceClient.Text.Percent

/-! The addresses that requests go to. Of an address only the path and the query travel in most
requests; what follows a hash sign stays here. Segments of the path that are dots name the directory
itself or the one above, and what cannot stand in a request is percent-encoded. -/

namespace ServiceClient.Http
open ServiceClient.Text

/-- Where a request is delivered. -/
structure Authority where
  /-- The name of a user and a password with a colon between them. -/
  user : Option String
  host : Host
  /-- Unless it is that of the scheme. -/
  port : Option Nat
  deriving DecidableEq

structure Address where
  authority : Authority
  /-- Encoded, without dots. -/
  segments : List (List Char)
  /-- Encoded. -/
  query : Option (List Char)
  deriving DecidableEq

def isSlash (c : Char) : Bool :=
  c == '/' || c == '\\'

def keepInPath (c : Char) : Bool :=
  '!' ≤ c && c ≤ '~' && !"\"#<>?`\x7b\x7d".toList.contains c

def keepInQuery (c : Char) : Bool :=
  '!' ≤ c && c ≤ '~' && !"\"#<>'".toList.contains c

/-- A segment with its encoded dots decoded, for comparison with dots. -/
def dotted : List Char → List Char
  | '%' :: '2' :: e :: s =>
      if e = 'e' || e = 'E' then '.' :: dotted s else '%' :: '2' :: e :: dotted s
  | c :: s => c :: dotted s
  | [] => []

/-- The path that segments lead to from `walked` on. A dot segment at the end leaves an empty last
segment. -/
def walk (walked : List (List Char)) : List (List Char) → List (List Char)
  | [] => walked
  | segment :: rest =>
    let last := if rest.isEmpty then [[]] else []
    if dotted segment = ['.', '.'] then walk (walked.dropLast ++ last) rest
    else if dotted segment = ['.'] then walk (walked ++ last) rest
    else walk (walked ++ [percentChars keepInPath segment]) rest

/-- The segments of `s` between slashes of either kind. -/
def splitSlashes (s : List Char) : List (List Char) :=
  splitAt '/' (s.map fun c => if isSlash c then '/' else c)

/-- A path, whose first slash says nothing. -/
def pathSegments (s : List Char) : List (List Char) :=
  walk [] (splitSlashes (if s.head?.any isSlash then s.drop 1 else s))

/-- The number that follows the colon after a host, which may be missing. -/
def port? (s : List Char) : Option (Option Nat) :=
  if s.isEmpty then some none
  else ((Number.natural? s).filter (· ≤ 65535)).map some

/-- A host and what follows the colon after it; colons in brackets do not count. -/
def splitPort (bracketed : Bool) : List Char → List Char × List Char
  | [] => ([], [])
  | c :: s =>
    if c = ':' && !bracketed then ([], s)
    else
      let inside := if c = '[' then true else if c = ']' then false else bracketed
      let (host, number) := splitPort inside s
      (c :: host, number)

/-- What the part before the last `@` says of a user, if anything. A password that is no text does
not count. -/
def user? (s : List Char) : Option String := do
  let written := (s.dropWhile (· != ':')).drop 1
  let name ← percentDecode? (s.takeWhile (· != ':'))
  let password := if written.isEmpty then none else percentDecode? written
  if name.isEmpty && password.isNone then none else some (name ++ ":" ++ password.getD "")

namespace Authority

/-- The authority that a text is, for a scheme with a port of its own. -/
def ofText? (own : Nat) (s : List Char) : Option Authority := do
  let behind := (s.reverse.takeWhile (· != '@')).reverse
  let (host, number) := splitPort false behind
  let host ← Host.ofText? host
  let port ← port? number
  let user := user? (s.take (s.length - behind.length - 1))
  some { user, host, port := port.filter (· ≠ own) }

/-- The host and the port as a request names them. -/
def text (a : Authority) : List Char :=
  a.host.text ++ (a.port.map fun n => ':' :: Nat.toDigits 10 n).getD []

end Authority

/-- Without the blanks around it and the line breaks and tabs within. -/
def clean (s : List Char) : List Char :=
  let blank := fun c : Char => c ≤ ' '
  let s := ((s.dropWhile blank).reverse.dropWhile blank).reverse
  s.filter fun c => c != '\t' && c != '\n' && c != '\r'

/-- The schemes of HTTP and their ports. -/
def schemes : List (String × Nat) :=
  [("http", 80), ("https", 443)]

namespace Address

/-- The address that a text is, if it is one for HTTP. -/
def ofText? (text : String) : Option Address := do
  let s := clean text.toList
  let own ← schemes.lookup (String.ofList (s.takeWhile (· != ':'))).toLower
  if s.contains ':' then
    let s := ((s.dropWhile (· != ':')).drop 1).dropWhile isSlash
    let ends := fun c : Char => isSlash c || c == '?' || c == '#'
    let rest := (s.dropWhile (!ends ·)).takeWhile (· != '#')
    let authority ← Authority.ofText? own (s.takeWhile (!ends ·))
    let query := if rest.contains '?' then some ((rest.dropWhile (· != '?')).drop 1) else none
    some { authority,
           segments := pathSegments (rest.takeWhile (· != '?')),
           query := query.map (percentChars keepInQuery) }
  else none

/-- Characters of a form that stand for themselves. -/
def keepInForm (c : Char) : Bool :=
  c.isAlphanum || c == '*' || c == '-' || c == '.' || c == '_'

def formText (s : String) : List Char :=
  s.toList.flatMap fun c => if c = ' ' then ['+'] else percentChars keepInForm [c]

def formPair (name value : String) : List Char :=
  formText name ++ '=' :: formText value

/-- Adds a pair to a query. -/
def addPair (query : List Char) (pair : String × String) : List Char :=
  let pair := formPair pair.1 pair.2
  if query.isEmpty then pair else query ++ '&' :: pair

def addPairs (a : Address) (pairs : List (String × String)) : Address :=
  if pairs.isEmpty then a else { a with query := some (pairs.foldl addPair (a.query.getD [])) }

/-- The path and the query. -/
def target (a : Address) : String :=
  let path := a.segments.flatMap ('/' :: ·)
  String.ofList (path ++ (a.query.map ('?' :: ·)).getD [])

end Address

example : (Address.ofText? "http://localhost/a/./b/../\x7bc\x7d?x y#z").map Address.target =
    some "/a/%7Bc%7D?x%20y" := by decide +kernel

example : (Address.ofText? "http://x:99999/").isNone = true := by decide +kernel

example : (Address.ofText? "https://u:p@x:0443").map (·.authority) =
    some { user := "u:p", host := .domain ['x'], port := none } := by decide +kernel

end ServiceClient.Http
