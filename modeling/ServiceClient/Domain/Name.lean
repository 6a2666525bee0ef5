import ServiceClient.Domain.Joining
import ServiceClient.Domain.Punycode
import ServiceClient.Text.Lines

/-! Domain names: labels between full stops. A label may be written in any script or, behind a mark
of its own, in Punycode. -/

namespace ServiceClient.Domain

/-- Labels that are longer are not encoded. -/
def maxLabel : Nat := 1000

/-- Encoded labels that are longer are not decoded. -/
def maxEncoded : Nat := 2000

/-- The text of a label; an encoded one must be of use, and decode to what would be looked up. -/
def labelText? : List Char → Option (List Char)
  | 'x' :: 'n' :: '-' :: '-' :: s =>
    if s.all isAscii && s.getLast?.any (· != '-') && s.length ≤ maxEncoded then
      (Punycode.decode? s).filter isMapped
    else none
  | s => some s

def isLabel (text : List Char) : Bool :=
  text.all isAscii ||
    (!text.head?.any isMark && joinersFit [] text && text.length ≤ maxLabel)

/-- A label in ASCII. -/
def asciiLabel (label : List Char) : List Char :=
  if label.all isAscii then label else 'x' :: 'n' :: '-' :: '-' :: Punycode.encode label

/-- The name in ASCII that is looked up for what is written, if it is one. -/
def ascii? (s : List Char) : Option (List Char) := do
  let name ← mapped? s
  let labels := Text.splitAt '.' name
  let texts ← labels.mapM labelText?
  let oneWay := !texts.any (·.any isRightward)
  if texts.all isLabel && (oneWay || texts.all isDirected) then
    some (List.intercalate ['.'] (labels.map asciiLabel))
  else none

example : ascii? "XN--bcher-kva.Bücher".toList = some "xn--bcher-kva.xn--bcher-kva".toList := by
  decide +kernel

example : ascii? "xn--a".toList = none := by decide +kernel

end ServiceClient.Domain
