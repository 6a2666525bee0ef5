import ServiceClient.Markup.Event
import ServiceClient.Markup.Reference

/-! From the bytes of a document to its events, one byte at a time. Closing tags must match the open
element by their full names; elements that are still open at the end are let pass. Comments,
processing instructions and document types leave no trace, so that text on both sides of one is a
single text. Attributes are never looked at. -/

namespace ServiceClient.Markup

/-- Where in the document the next byte stands. The bytes of an unfinished part are kept last byte
first. -/
inductive Place where
  | text (piece : List UInt8)
  /-- After `&`. -/
  | reference (name : List UInt8)
  /-- After `<`. -/
  | markup
  /-- In an opening tag, perhaps inside a quoted part. -/
  | opening (quote : Option UInt8) (content : List UInt8)
  | closing (content : List UInt8)
  /-- After `<!`. -/
  | declaration
  /-- After `<!-`. -/
  | commentStart
  /-- `dashes` of the last two bytes are dashes that may end the comment. -/
  | comment (dashes : Nat)
  /-- `missing` has to follow before the data begin. -/
  | dataStart (missing : List UInt8)
  | data (content : List UInt8)
  | typeStart (missing : List UInt8)
  /-- `named` once anything but white space was met. -/
  | type (depth : Nat) (named : Bool)
  /-- After `<?`. -/
  | instructionStart
  /-- `asked` after a question mark. -/
  | instruction (asked : Bool)
  deriving DecidableEq

structure Scan where
  /-- Full names of the open elements, innermost first. -/
  opened : List (List UInt8) := []
  /-- Last event first. -/
  events : List Event := []
  place : Place := .text []
  deriving DecidableEq

/-- White space within tags. -/
def isSpace (b : UInt8) : Bool :=
  b == 0x20 || b == 9 || b == 10 || b == 13

def ascii (c : Char) : UInt8 :=
  UInt8.ofNat c.toNat

def asciiBytes (s : String) : List UInt8 :=
  s.toList.map ascii

/-- The name at the start of a tag. -/
def nameOf (content : List UInt8) : List UInt8 :=
  content.takeWhile (!isSpace ·)

/-- What follows the first colon, or all of a name without one. -/
def localPart (name : List UInt8) : List UInt8 :=
  if name.contains (ascii ':') then (name.dropWhile (· != ascii ':')).drop 1 else name

/-- White space at the end of a closing tag is dropped, unless there is nothing else. -/
def closingName (content : List UInt8) : List UInt8 :=
  if content.all isSpace then content else (content.reverse.dropWhile isSpace).reverse

/-- Adds text to the events, last event first. -/
def addText (s : String) : List Event → List Event
  | .text t :: events => .text (t ++ s) :: events
  | events => .text s :: events

def upperByte (b : UInt8) : UInt8 :=
  if ascii 'a' ≤ b && b ≤ ascii 'z' then b - 32 else b

namespace Scan

/-- Ends a piece of character data; an empty piece is no text. -/
def endPiece (piece : List UInt8) (s : Scan) : Option Scan :=
  if piece.isEmpty then some s
  else (Text.Utf8.decode? piece.reverse).map fun t => { s with events := addText t s.events }

def endReference (name : List UInt8) (s : Scan) : Option Scan := do
  let written ← Text.Utf8.decode? name.reverse
  let c ← reference? written.toList
  some { s with events := addText (String.singleton c) s.events, place := .text [] }

def endData (content : List UInt8) (s : Scan) : Option Scan := do
  let t ← Text.Utf8.decode? content.reverse
  some { s with events := addText t s.events, place := .text [] }

/-- Ends an opening tag; one with a slash at its end closes itself. -/
def endOpening (content : List UInt8) (s : Scan) : Option Scan :=
  match content with
  | 0x2F :: rest => do
    let name ← Text.Utf8.decode? (localPart (nameOf rest.reverse))
    some { s with events := .closing name :: .opening name :: s.events, place := .text [] }
  | _ => do
    let full := nameOf content.reverse
    let name ← Text.Utf8.decode? (localPart full)
    some { opened := full :: s.opened, events := .opening name :: s.events, place := .text [] }

def endClosing (content : List UInt8) (s : Scan) : Option Scan :=
  match s.opened with
  | [] => none
  | full :: opened =>
    if closingName content.reverse = full then do
      let name ← Text.Utf8.decode? (localPart full)
      some { opened, events := .closing name :: s.events, place := .text [] }
    else none

def goto (place : Place) (s : Scan) : Option Scan :=
  some { s with place }

/-- Reads one byte; fails where the document is malformed. -/
def step (s : Scan) (b : UInt8) : Option Scan :=
  match s.place with
  | .text piece =>
    if b = ascii '<' then (s.endPiece piece).bind (goto .markup)
    else if b = ascii '&' then (s.endPiece piece).bind (goto (.reference []))
    else s.goto (.text (b :: piece))
  | .reference name =>
    if b = ascii ';' then s.endReference name
    else if b = ascii '&' || b = ascii '<' then none
    else s.goto (.reference (b :: name))
  | .markup =>
    if b = ascii '/' then s.goto (.closing [])
    else if b = ascii '!' then s.goto .declaration
    else if b = ascii '?' then s.goto .instructionStart
    else if b = ascii '>' then s.endOpening []
    else s.goto (.opening (if b = ascii '"' || b = ascii '\'' then some b else none) [b])
  | .opening none content =>
    if b = ascii '>' then s.endOpening content
    else s.goto (.opening (if b = ascii '"' || b = ascii '\'' then some b else none) (b :: content))
  | .opening (some quote) content =>
    s.goto (.opening (if b = quote then none else some quote) (b :: content))
  | .closing content =>
    if b = ascii '>' then s.endClosing content else s.goto (.closing (b :: content))
  | .declaration =>
    if b = ascii '-' then s.goto .commentStart
    else if b = ascii '[' then s.goto (.dataStart (asciiBytes "CDATA["))
    else if upperByte b = ascii 'D' then s.goto (.typeStart (asciiBytes "OCTYPE"))
    else none
  | .commentStart => if b = ascii '-' then s.goto (.comment 0) else none
  | .comment dashes =>
    if b = ascii '-' then s.goto (.comment (min 2 (dashes + 1)))
    else if b = ascii '>' && dashes = 2 then s.goto (.text [])
    else s.goto (.comment 0)
  | .dataStart missing =>
    match missing with
    | [] => none
    | [c] => if b = c then s.goto (.data []) else none
    | c :: rest => if b = c then s.goto (.dataStart rest) else none
  | .data content =>
    match content with
    | 0x5D :: 0x5D :: rest =>
        if b = ascii '>' then s.endData rest else s.goto (.data (b :: content))
    | _ => s.goto (.data (b :: content))
  | .typeStart missing =>
    match missing with
    | [] => none
    | [c] => if upperByte b = c then s.goto (.type 0 false) else none
    | c :: rest => if upperByte b = c then s.goto (.typeStart rest) else none
  | .type depth named =>
    if b = ascii '<' then s.goto (.type (depth + 1) true)
    else if b = ascii '>' then
      if depth = 0 then (if named then s.goto (.text []) else none)
      else s.goto (.type (depth - 1) true)
    else s.goto (.type depth (named || !isSpace b))
  | .instructionStart => if b = ascii '>' then none else s.goto (.instruction (b = ascii '?'))
  | .instruction asked =>
    if b = ascii '>' && asked then s.goto (.text []) else s.goto (.instruction (b = ascii '?'))

/-- The scan after all of `bytes`. -/
def run (s : Scan) (bytes : List UInt8) : Option Scan :=
  bytes.foldlM step s

/-- The events of a document that ends here, which it cannot do inside markup or a reference. -/
def finish (s : Scan) : Option (List Event) :=
  match s.place with
  | .text piece => (s.endPiece piece).map (·.events.reverse)
  | _ => none

end Scan

/-- A byte order mark at the start is no part of the document. -/
def dropMark : List UInt8 → List UInt8
  | 0xEF :: 0xBB :: 0xBF :: bytes => bytes
  | bytes => bytes

/-- The events of a document, unless it is malformed. -/
def events? (bytes : List UInt8) : Option (List Event) :=
  (Scan.run {} (dropMark bytes)).bind Scan.finish

example : events? (asciiBytes "<a x='>'>1<!-- - --> &#50;<![CDATA[<]]></a><b/>") =
    some [.opening "a", .text "1 2<", .closing "a", .opening "b", .closing "b"] := by decide +kernel

example : events? (asciiBytes "<a></b>") = none := by decide +kernel

example : events? (asciiBytes "<a><b>") = some [.opening "a", .opening "b"] := by decide +kernel

end ServiceClient.Markup
