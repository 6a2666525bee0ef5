import ServiceClient.Markup.Scan
import ServiceClient.Wire.ParseError

/-! Pulling from a list of events. Every operation yields what is left of the list, also when it
fails; where an element is wanted, blank text in front of it is passed over first. -/

namespace ServiceClient.Markup
open ServiceClient.Wire

/-- A result and the events that are left. -/
abbrev Pulled (α : Type) := Except ParseError α × List Event

def skipBlank (events : List Event) : List Event :=
  events.dropWhile Event.isBlank

/-- The name of the next element, which stays where it is; none at a closing tag or the end. -/
def peekStart (events : List Event) : Pulled (Option String) :=
  let events := skipBlank events
  match events with
  | .opening name :: _ => (.ok (some name), events)
  | .text s :: _ => (.error (.unexpectedElement .element (some (.text s))), events)
  | _ => (.ok none, events)

def startElement (name : String) (events : List Event) : Pulled Unit :=
  let events := skipBlank events
  match events with
  | .opening found :: rest =>
    if found = name then (.ok (), rest)
    else (.error (.unexpectedElement (.opening name) (some (.opening found))), events)
  | found => (.error (.unexpectedElement (.opening name) found.head?), events)

def endElement (name : String) (events : List Event) : Pulled Unit :=
  let events := skipBlank events
  match events with
  | [] => (.error (.unclosedElement name), [])
  | .closing found :: rest =>
    if found = name then (.ok (), rest)
    else (.error (.unexpectedElement (.closing name) (some (.closing found))), events)
  | found :: _ => (.error (.unexpectedElement (.closing name) (some found)), events)

/-- The text of the current element, which may be none at all. -/
def characters (events : List Event) : Pulled String :=
  match events with
  | .text s :: rest => (.ok s, rest)
  | .closing name :: rest => (.ok "", .closing name :: rest)
  | found => (.error (.unexpectedElement .text found.head?), events)

/-- What follows the closing tag that brings `depth` open elements to none. -/
def dropElements (depth : Nat) : List Event → Option (List Event)
  | [] => none
  | .opening _ :: events => dropElements (depth + 1) events
  | .closing _ :: events => if depth ≤ 1 then some events else dropElements (depth - 1) events
  | .text _ :: events => dropElements depth events

/-- Passes over the next element with all that it holds. -/
def skipElement (events : List Event) : Pulled Unit :=
  let events := skipBlank events
  match events with
  | .opening name :: rest =>
    match dropElements 1 rest with
    | some left => (.ok (), left)
    | none => (.error (.unclosedElement name), [])
  | found => (.error (.unexpectedElement .element found.head?), events)

/-- The first element of a document; the empty text for a document without elements. -/
def rootName (events : List Event) : String :=
  (events.findSome? fun e => match e with | .opening name => some name | _ => none).getD ""

def ofBytes (bytes : List UInt8) : Except ParseError (List Event) :=
  match events? bytes with
  | some events => .ok events
  | none => .error .malformedXml

/-- The events of a response. One without any element is read as an empty element `root`. -/
def ofResponse (root : String) (bytes : List UInt8) : Except ParseError (List Event) := do
  let events ← ofBytes bytes
  .ok (if events.any Event.isOpening then events else [.opening root, .closing root])

end ServiceClient.Markup
