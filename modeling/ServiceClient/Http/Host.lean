import ServiceClient.Domain.Name
import ServiceClient.Http.Number4
import ServiceClient.Http.Number6
import ServiceClient.Text.Percent

/-! The hosts that an address may name: a domain, or a number of one of the two versions of the
internet protocol. -/

namespace ServiceClient.Http

inductive Host where
  /-- In ASCII, as it is looked up. -/
  | domain (name : List Char)
  /-- Four bytes. -/
  | number4 (bytes : List Nat)
  /-- Eight groups of 16 bits. -/
  | number6 (groups : List Nat)
  deriving DecidableEq

/-- Characters that no domain has, and those that the head of a request cannot carry. -/
def isForbidden (c : Char) : Bool :=
  c ≤ ' ' || c == '\x7f' || "#%/:<>?@[\\]^|".toList.contains c || "\"`\x7b\x7d".toList.contains c

namespace Host

def ofName? (name : List Char) : Option Host :=
  if name.isEmpty || name.any isForbidden then none
  else if endsInNumber name then (number4? name).map number4
  else some (domain name)

def ofText? (s : List Char) : Option Host :=
  match s with
  | [] => none
  | '[' :: rest =>
    if rest.getLast? = some ']' then (number6? rest.dropLast).map number6 else none
  | _ => do
    let written ← Text.percentDecode? s
    let name ← Domain.ascii? written.toList
    ofName? name

/-- How the host is written in a request. -/
def text : Host → List Char
  | domain name => name
  | number4 bytes => number4Text bytes
  | number6 groups => '[' :: number6Text groups ++ [']']

end Host

example : (Host.ofText? "Widgets.us-east-1.amazonaws.com".toList).map Host.text =
    some "widgets.us-east-1.amazonaws.com".toList := by decide +kernel

example : (Host.ofText? "[::0]".toList).map Host.text = some "[::]".toList := by decide +kernel

example : Host.ofText? "b%C3%BCcher\x7d".toList = none := by decide +kernel

end ServiceClient.Http
