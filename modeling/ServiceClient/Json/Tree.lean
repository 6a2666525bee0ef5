import ServiceClient.Text.Utf8

/-! The layout of a JSON text as far as it goes. Where the text is at fault the tree holds the fault
in place of what should stand there, so whoever reads the tree in order meets the first fault of
what it reads, and may pass over the rest. -/

namespace ServiceClient.Json

inductive Defect where
  | malformed
  | truncated
  deriving DecidableEq

/-- What a reader of the place reports, and what one that passes over it does. They differ in
numbers cut short, which are only incomplete to a reader. -/
structure Fault where
  read : Defect
  skipped : Defect
  deriving DecidableEq

namespace Fault

def malformed : Fault := ⟨.malformed, .malformed⟩

def truncated : Fault := ⟨.truncated, .truncated⟩

def cutNumber : Fault := ⟨.truncated, .malformed⟩

end Fault

/-- The digits of a number as written; `exponent` holds its sign, `true` for minus. -/
structure Literal where
  negative : Bool
  whole : List Char
  fraction : Option (List Char)
  exponent : Option (Bool × List Char)
  deriving DecidableEq

/-- Text of a string or key, or the defect in it that only a reader of the text minds. -/
abbrev Spelling := Except Defect String

inductive Tree where
  | null
  | bool (b : Bool)
  | number (literal : Literal)
  | string (text : Spelling)
  | array (items : List Tree) (close : Option Fault)
  | object (entries : List (Spelling × Tree)) (close : Option Fault)
  | broken (fault : Fault)

def isSpace (b : UInt8) : Bool :=
  b == 0x20 || b == 0x09 || b == 0x0A || b == 0x0D

def skipSpace (s : List UInt8) : List UInt8 :=
  s.dropWhile isSpace

def isDigit (b : UInt8) : Bool :=
  0x30 ≤ b && b ≤ 0x39

def hexValue? (b : UInt8) : Option Nat :=
  if isDigit b then some (b.toNat - 0x30)
  else if 0x61 ≤ b && b ≤ 0x66 then some (b.toNat - 0x57)
  else if 0x41 ≤ b && b ≤ 0x46 then some (b.toNat - 0x37)
  else none

def hex4? (a b c d : UInt8) : Option Nat := do
  let a ← hexValue? a
  let b ← hexValue? b
  let c ← hexValue? c
  let d ← hexValue? d
  some (((a * 16 + b) * 16 + c) * 16 + d)

/-- The byte that a one-letter escape stands for. -/
def shortEscape? (b : UInt8) : Option UInt8 :=
  match Char.ofNat b.toNat with
  | '"' => some 0x22
  | '\\' => some 0x5C
  | '/' => some 0x2F
  | 'b' => some 0x08
  | 'f' => some 0x0C
  | 'n' => some 0x0A
  | 'r' => some 0x0D
  | 't' => some 0x09
  | _ => none

/-- What follows a string whose opening quote has been passed. Unpaired surrogates do not matter. -/
def afterString : List UInt8 → Except Defect (List UInt8)
  | [] => .error .truncated
  | 0x22 :: s => .ok s
  | [0x5C] => .error .truncated
  | 0x5C :: 0x75 :: a :: b :: c :: d :: s =>
    if (hex4? a b c d).isSome then afterString s else .error .malformed
  | 0x5C :: 0x75 :: _ => .error .truncated
  | 0x5C :: b :: s => if (shortEscape? b).isSome then afterString s else .error .malformed
  | b :: s => if b < 0x20 then .error .malformed else afterString s

def isLeading (n : Nat) : Bool :=
  0xD800 ≤ n && n ≤ 0xDBFF

def isTrailing (n : Nat) : Bool :=
  0xDC00 ≤ n && n ≤ 0xDFFF

/-- The bytes that a string spells, from behind its opening quote up to its closing quote. -/
def stringBytes : List UInt8 → Except Defect (List UInt8)
  | [] => .error .truncated
  | 0x22 :: _ => .ok []
  | [0x5C] => .error .truncated
  | 0x5C :: 0x75 :: a :: b :: c :: d :: s =>
    match hex4? a b c d with
    | none => .error .malformed
    | some n =>
      if isTrailing n then .error .malformed
      else if isLeading n then
        match s with
        | [] => .error .truncated
        | [0x5C] => .error .truncated
        | 0x5C :: 0x75 :: a' :: b' :: c' :: d' :: t =>
          match hex4? a' b' c' d' with
          | none => .error .malformed
          | some m =>
            if isTrailing m then
              let c := Char.ofNat (0x10000 + (n - 0xD800) * 0x400 + (m - 0xDC00))
              (stringBytes t).map (String.utf8EncodeChar c ++ ·)
            else .error .malformed
        | 0x5C :: 0x75 :: _ => .error .truncated
        | _ => .error .malformed
      else (stringBytes s).map (String.utf8EncodeChar (Char.ofNat n) ++ ·)
  | 0x5C :: 0x75 :: _ => .error .truncated
  | 0x5C :: b :: s =>
    match shortEscape? b with
    | some e => (stringBytes s).map (e :: ·)
    | none => .error .malformed
  | b :: s => if b < 0x20 then .error .malformed else (stringBytes s).map (b :: ·)

/-- A string's text, and what follows it; a fault if the string does not end. -/
def spelling (s : List UInt8) : Except Fault (Spelling × List UInt8) :=
  let text : Spelling := do
    let bytes ← stringBytes s
    match Text.Utf8.decode? bytes with
    | some text => .ok text
    | none => .error .malformed
  match afterString s, text with
  | .ok rest, _ => .ok (text, rest)
  | .error skipped, .error read => .error ⟨read, skipped⟩
  | .error skipped, .ok _ => .error ⟨skipped, skipped⟩

def charsOf (s : List UInt8) : List Char :=
  s.map fun b => Char.ofNat b.toNat

/-- The whole part of a number: digits without a leading zero. -/
def whole : List UInt8 → Except Fault (List Char × List UInt8)
  | [] => .error .cutNumber
  | b :: s =>
    if !isDigit b then .error .malformed
    else if b == 0x30 then
      if s.head?.any isDigit then .error .malformed else .ok (['0'], s)
    else .ok (charsOf ((b :: s).takeWhile isDigit), (b :: s).dropWhile isDigit)

/-- At least one digit. -/
def digits (s : List UInt8) : Except Fault (List Char × List UInt8) :=
  match s.takeWhile isDigit with
  | [] => .error (if s.isEmpty then .cutNumber else .malformed)
  | ds => .ok (charsOf ds, s.dropWhile isDigit)

def fraction : List UInt8 → Except Fault (Option (List Char) × List UInt8)
  | 0x2E :: s => (digits s).map fun (ds, rest) => (some ds, rest)
  | s => .ok (none, s)

def exponent : List UInt8 → Except Fault (Option (Bool × List Char) × List UInt8)
  | b :: s =>
    if b == 0x65 || b == 0x45 then
      let (negative, s) :=
        match s with
        | 0x2B :: t => (false, t)
        | 0x2D :: t => (true, t)
        | t => (false, t)
      (digits s).map fun (ds, rest) => (some (negative, ds), rest)
    else .ok (none, b :: s)
  | [] => .ok (none, [])

def literal (s : List UInt8) : Except Fault (Literal × List UInt8) := do
  let (negative, s) :=
    match s with
    | 0x2D :: t => (true, t)
    | t => (false, t)
  let (whole, s) ← whole s
  let (fraction, s) ← fraction s
  let (exponent, s) ← exponent s
  .ok (⟨negative, whole, fraction, exponent⟩, s)

/-- What follows `word`, which must stand at the head of the text. -/
def afterWord : List UInt8 → List UInt8 → Except Defect (List UInt8)
  | [], s => .ok s
  | _ :: _, [] => .error .truncated
  | w :: ws, b :: s => if w == b then afterWord ws s else .error .malformed

def wordTree (word : String) (tree : Tree) (s : List UInt8) : Tree × List UInt8 :=
  match afterWord (Text.utf8 word) s with
  | .ok rest => (tree, rest)
  | .error defect => (.broken ⟨defect, defect⟩, [])

/-- The parts of a value that starts with other than a bracket. -/
def leaf : List UInt8 → Tree × List UInt8
  | [] => (.broken .truncated, [])
  | b :: s =>
    if b == 0x6E then wordTree "null" .null (b :: s)
    else if b == 0x74 then wordTree "true" (.bool true) (b :: s)
    else if b == 0x66 then wordTree "false" (.bool false) (b :: s)
    else if b == 0x22 then
      match spelling s with
      | .ok (text, rest) => (.string text, rest)
      | .error fault => (.broken fault, [])
    else if b == 0x2D || isDigit b then
      match literal (b :: s) with
      | .ok (n, rest) => (.number n, rest)
      | .error fault => (.broken fault, [])
    else (.broken .malformed, [])

/-- Behind an element of a list or object: the text at the next element, or how the list ends. -/
def next (close : UInt8) (s : List UInt8) : Except (Option Fault × List UInt8) (List UInt8) :=
  match skipSpace s with
  | [] => .error (some .truncated, [])
  | b :: t =>
    if b == close then .error (none, t)
    else if b == 0x2C then .ok (skipSpace t)
    else .error (some .malformed, [])

/-- The key and colon at the head of an object's entry, and what follows. -/
def key (s : List UInt8) : Except Fault (Spelling × Except Fault (List UInt8)) :=
  match s with
  | [] => .error .truncated
  | b :: t =>
    if b == 0x22 then do
      let (text, rest) ← spelling t
      match skipSpace rest with
      | [] => .ok (text, .error .truncated)
      | c :: u => .ok (text, if c == 0x3A then .ok (skipSpace u) else .error .malformed)
    else .error .malformed

mutual

/-- The value at the head of the text and what follows it, which is nothing behind a fault. Each
byte costs two steps at most. -/
def treeAt : (steps : Nat) → List UInt8 → Tree × List UInt8
  | 0, _ => (.broken .malformed, [])
  | steps + 1, 0x5B :: s =>
    match skipSpace s with
    | [] => (.array [] (some .truncated), [])
    | 0x5D :: rest => (.array [] none, rest)
    | first =>
      let (items, close, rest) := elementsAt steps first
      (.array items close, rest)
  | steps + 1, 0x7B :: s =>
    match skipSpace s with
    | [] => (.object [] (some .truncated), [])
    | 0x7D :: rest => (.object [] none, rest)
    | first =>
      let (entries, close, rest) := membersAt steps first
      (.object entries close, rest)
  | _ + 1, s => leaf s

def elementsAt : (steps : Nat) → List UInt8 → List Tree × Option Fault × List UInt8
  | 0, _ => ([.broken .malformed], none, [])
  | steps + 1, s =>
    let (item, rest) := treeAt steps s
    match next 0x5D rest with
    | .error (close, rest) => ([item], close, rest)
    | .ok rest =>
      let (items, close, rest) := elementsAt steps rest
      (item :: items, close, rest)

def membersAt : (steps : Nat) → List UInt8 → List (Spelling × Tree) × Option Fault × List UInt8
  | 0, _ => ([], some .malformed, [])
  | steps + 1, s =>
    match key s with
    | .error fault => ([], some fault, [])
    | .ok (name, .error fault) => ([(name, .broken fault)], none, [])
    | .ok (name, .ok rest) =>
      let (value, rest) := treeAt steps rest
      match next 0x7D rest with
      | .error (close, rest) => ([(name, value)], close, rest)
      | .ok rest =>
        let (entries, close, rest) := membersAt steps rest
        ((name, value) :: entries, close, rest)

end

/-- A whole text: the tree of its value, and whether anything but space follows it. -/
structure Source where
  tree : Tree
  trailing : Bool

def Source.ofBytes (s : List UInt8) : Source :=
  let (t, rest) := treeAt (2 * s.length + 2) (skipSpace s)
  ⟨t, !(skipSpace rest).isEmpty⟩

end ServiceClient.Json
