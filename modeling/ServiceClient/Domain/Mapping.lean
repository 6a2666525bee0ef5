import ServiceClient.Domain.MappingTable
import ServiceClient.Text.Normal

/-! Mapping of domain names. Names that differ in case or width, or in characters without meaning of
their own, are one name: what is written is replaced by what is looked up. -/

namespace ServiceClient.Domain

def isAscii (c : Char) : Bool :=
  c.toNat < 0x80

/-- Whether `n` lies in one of the runs, which are given by their first and last numbers. -/
def inRuns (runs : List (Nat × Nat)) (n : Nat) : Bool :=
  runs.any fun (first, last) => first ≤ n && n ≤ last

inductive Role where
  | kept
  | dropped
  | replaced (text : List Char)
  | refused
  deriving DecidableEq

def shifted? (n : Nat) : Option Char :=
  (shiftedRuns.find? fun (first, last, step, _) =>
    first ≤ n && n ≤ last && (n - first) % step == 0).map fun (first, _, _, image) =>
      Char.ofNat (image + (n - first))

def replacement? (n : Nat) : Option (List Char) :=
  match (shifted? n).or ((replacements.lookup n).map Char.ofNat) with
  | some c => some [c]
  | none => (expansions.lookup n).map String.toList

def role (c : Char) : Role :=
  let n := c.toNat
  if isAscii c then if c.isUpper then .replaced [c.toLower] else .kept
  else
    match replacement? n with
    | some s => .replaced s
    | none =>
      if inRuns droppedRuns n then .dropped
      else if inRuns writtenRuns n then .kept
      else .refused

/-- What is looked up for a character, unless it is refused. -/
def image? (c : Char) : Option (List Char) :=
  match role c with
  | .kept => some [c]
  | .dropped => some []
  | .replaced s => some s
  | .refused => none

/-- What is looked up for a name. -/
def mapped? (s : List Char) : Option (List Char) :=
  (s.mapM image?).map fun images => Text.Normal.normalize images.flatten

/-- Whether a text is looked up as it is. -/
def isMapped (s : List Char) : Bool :=
  s.all (role · == .kept) && Text.Normal.normalize s == s

example : mapped? "Ｗｉｄｇｅｔｓ。Ⅷ\u00ad".toList = some "widgets.viii".toList := by decide +kernel

example : mapped? "\ue000".toList = none := by decide +kernel

end ServiceClient.Domain
