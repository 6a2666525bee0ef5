/-! Filling lines with boxes. Text is interspersed with gaps, and nested boxes decide where gaps
become line ends: a box that fits on the rest of the line keeps all its gaps as blanks; otherwise a
consistent box ends the line at each of its gaps, and any other box at those where the text up to
the next gap would not fit. -/

namespace ServiceClient.Code.Box

structure Gap where
  blank : Nat
  /-- Added to the indentation of the line that starts here. -/
  offset : Int := 0
  /-- Stands at the end of the line that ends here. -/
  before : String := ""
  /-- Stands at the start of the line that starts here. -/
  after : String := ""
  /-- Stands in a gap that is no line end. -/
  inside : String := ""
  /-- Not there at the end of a box. -/
  ifMore : Bool := false
  never : Bool := false

inductive Piece where
  | text (s : String)
  | gap (g : Gap)
  /-- Starts a box whose lines are indented by `indent` more. -/
  | opening (consistent : Bool) (indent : Int)
  | closing
  /-- Too wide for any line, and without text. -/
  | wide

def margin : Int := 89

/-- Room for text on the most deeply indented lines. -/
def minRoom : Int := 60

/-- The blank of a gap that is always a line end. -/
def endless : Nat := 65535

def width (s : String) : Nat :=
  s.utf8ByteSize

/-- A gap that leaves no trace, but what is before it is measured only up to there. -/
def seam : Piece :=
  .gap { blank := 0, never := true }

/-- Drops boxes that hold nothing but a gap, and makes a seam of a gap that needs more to follow in
its box. `done` holds the pieces so far, newest first. -/
def tidy (done : List Piece) : List Piece → List Piece
  | [] => done.reverse
  | .closing :: rest =>
    match done with
    | .gap _ :: .opening _ _ :: earlier => tidy earlier rest
    | .gap g :: earlier => tidy (.closing :: (if g.ifMore then seam else .gap g) :: earlier) rest
    | _ => tidy (.closing :: done) rest
  | p :: rest => tidy (p :: done) rest

/-- Whether the text up to the next gap that is not deeper than the present box fits in `room`.
`depth` counts boxes relative to the present one and `low` is the least depth so far. -/
def fits (room depth low : Int) : List Piece → Bool
  | [] => 0 ≤ room
  | p :: rest =>
    if room < 0 then false
    else
      match p with
      | .text s => fits (room - width s) depth low rest
      | .wide => false
      | .opening _ _ => fits room (depth + 1) low rest
      | .closing => fits room (depth - 1) (min low (depth - 1)) rest
      | .gap g => depth == low || fits (room - g.blank) depth low rest

/-- A box being filled; a broken one holds the indentation outside it. -/
inductive Frame where
  | whole
  | broken (consistent : Bool) (outer : Int)

structure State where
  frames : List Frame := []
  indent : Int := 0
  room : Int := margin
  /-- Blanks owed before the next text. -/
  pending : Nat := 0
  /-- The text so far, newest first. -/
  out : List String := []

namespace State

def blanks (n : Nat) : String :=
  String.ofList (List.replicate n ' ')

def put (st : State) (s : String) : State :=
  { st with pending := 0, out := s :: blanks st.pending :: st.out }

def write (st : State) (s : String) : State :=
  let st := st.put s
  { st with room := st.room - width s }

def keepGap (st : State) (g : Gap) : State :=
  { st with
    pending := st.pending + g.blank
    room := st.room - g.blank - width g.inside
    out := g.inside :: st.out }

def endLine (st : State) (g : Gap) : State :=
  let st := if g.before = "" then st else st.put g.before
  let column := st.indent + g.offset
  let st :=
    { st with
      pending := column.toNat
      room := max (margin - column) minRoom
      out := "\n" :: st.out }
  if g.after = "" then st else st.write g.after

def step (st : State) (rest : List Piece) : Piece → State
  | .text s => st.write s
  | .wide => st.put ""
  | .opening consistent indent =>
    if fits st.room 1 0 rest then { st with frames := .whole :: st.frames }
    else
      { st with
        frames := .broken consistent st.indent :: st.frames
        indent := st.indent + indent }
  | .closing =>
    match st.frames with
    | .broken _ outer :: frames => { st with frames, indent := outer }
    | _ :: frames => { st with frames }
    | [] => st
  | .gap g =>
    let keep :=
      g.never ||
        match st.frames with
        | .whole :: _ => true
        | .broken true _ :: _ => false
        | _ => fits (st.room - g.blank) 0 0 rest
    if keep then st.keepGap g else st.endLine g

def run (st : State) : List Piece → State
  | [] => st
  | p :: rest => (st.step rest p).run rest

end State

def render (pieces : List Piece) : String :=
  String.join ((State.run {} (tidy [] pieces)).out.reverse)

/-! Pieces in common use. -/

def word (s : String) : List Piece := [.text s]

def blankGap : List Piece := [.gap { blank := 1 }]

def emptyGap : List Piece := [.gap { blank := 0 }]

def lineEnd : List Piece := [.gap { blank := endless }]

def lineEndIfMore : List Piece := [.gap { blank := endless, ifMore := true }]

def noLineEnd : List Piece := [seam]

/-- A box that ends its lines at every gap or at none. -/
def tall (indent : Int) (inner : List Piece) : List Piece :=
  .opening true indent :: inner ++ [.closing]

/-- A box that ends its lines where it must. -/
def packed (indent : Int) (inner : List Piece) : List Piece :=
  .opening false indent :: inner ++ [.closing]

/-- Moves the line that starts at the last gap of `pieces`, which ends them, to the left. -/
def dedent (pieces : List Piece) : List Piece :=
  match pieces.reverse with
  | .gap g :: earlier => (Piece.gap { g with offset := g.offset - 4 } :: earlier).reverse
  | _ => pieces

/-- A comma behind each item: behind the last only where the line ends. -/
def commaSeparated (blank : Nat) : List (List Piece) → List Piece
  | [] => []
  | [p] => p ++ [.gap { blank, before := "," }]
  | p :: rest => p ++ .text "," :: blankGap ++ commaSeparated blank rest

/-- Items between brackets, on one line or one per line. -/
def listed (opening closing : String) (indent : Int) (items : List (List Piece)) : List Piece :=
  word opening ++ tall indent (dedent (emptyGap ++ commaSeparated 0 items)) ++ word closing

def flatWidth (pieces : List Piece) : Nat :=
  pieces.foldl (fun n piece =>
    n + match piece with
      | .text s => width s
      | .gap g => g.blank
      | .wide => endless
      | _ => 0) 0

/-- As `tall`, with the lines ended at every gap also where the box is wider than `limit`. -/
def tallWithin (limit : Nat) (indent : Int) (inner : List Piece) : List Piece :=
  .opening true indent :: inner ++ (if limit < flatWidth inner then [.wide] else []) ++ [.closing]

end ServiceClient.Code.Box
