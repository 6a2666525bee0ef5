import ServiceClient.Number.Hexadecimal
import ServiceClient.Number.Integer
import ServiceClient.Text.Lines

/-! Hosts by numbers of version 6 of the internet protocol: eight groups of 16 bits, of which one
run of zeros may be left out. -/

namespace ServiceClient.Http
open ServiceClient.Number (hexadecimal? natural?)
open ServiceClient.Text (splitAt)

def dottedByte? (s : List Char) : Option Nat :=
  (natural? s).filter fun n => n ≤ 255 && (s.length = 1 || s.head? ≠ some '0')

/-- The two groups that four bytes fill. -/
def dottedGroups? (s : List Char) : Option (List Nat) :=
  match (splitAt '.' s).mapM dottedByte? with
  | some [a, b, c, d] => some [a * 256 + b, c * 256 + d]
  | _ => none

def group? (s : List Char) : Option Nat :=
  if s.length ≤ 4 then hexadecimal? s else none

/-- The groups that a run of parts fills; only the one at the end of the number may end in bytes. -/
def groups? (last : Bool) (s : List Char) : Option (List Nat) :=
  if s.isEmpty then some []
  else
    let parts := splitAt ':' s
    let final := parts.getLast?.getD []
    if last && final.contains '.' then do
      let groups ← parts.dropLast.mapM group?
      let bytes ← dottedGroups? final
      some (groups ++ bytes)
    else parts.mapM group?

/-- The text before the first `::` and what follows it. -/
def splitGap : List Char → List Char × Option (List Char)
  | [] => ([], none)
  | ':' :: ':' :: s => ([], some s)
  | c :: s => let (before, after) := splitGap s; (c :: before, after)

/-- Eight groups, or fewer with a gap that stands for the rest. -/
def number6? (s : List Char) : Option (List Nat) :=
  match splitGap s with
  | (whole, none) => (groups? true whole).filter (·.length = 8)
  | (before, some after) => do
    let before ← groups? false before
    let after ← groups? true after
    if before.length + after.length ≤ 7 then
      some (before ++ List.replicate (8 - before.length - after.length) 0 ++ after)
    else none

/-- Where the longest run of zeros starts, and how long it is; of several the first. -/
def longestGap (groups : List Nat) : Nat × Nat :=
  (List.range groups.length).foldl
    (fun best i =>
      let zeros := ((groups.drop i).takeWhile (· = 0)).length
      if best.2 < zeros then (i, zeros) else best)
    (0, 0)

def groupsText (groups : List Nat) : List Char :=
  List.intercalate [':'] (groups.map (Nat.toDigits 16))

/-- A lone zero is written. -/
def number6Text (groups : List Nat) : List Char :=
  let (start, zeros) := longestGap groups
  if zeros < 2 then groupsText groups
  else groupsText (groups.take start) ++ [':', ':'] ++ groupsText (groups.drop (start + zeros))

example : (number6? "1:0:0:2::1.2.3.4".toList).map number6Text =
    some "1::2:0:0:102:304".toList := by decide +kernel

example : number6? "1:2:3:4:5:6:7::8".toList = none := by decide +kernel

end ServiceClient.Http
