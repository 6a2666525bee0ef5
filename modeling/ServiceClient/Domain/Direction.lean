import ServiceClient.Domain.DirectionTable
import ServiceClient.Domain.Mapping

/-! The direction of labels. In a name with letters that are written from right to left every label
must read the same way on a line of either direction. -/

namespace ServiceClient.Domain

inductive Direction where
  | left
  | right
  | arabicDigit
  | europeanDigit
  | neutral
  | mark
  deriving DecidableEq

def direction (c : Char) : Direction :=
  let n := c.toNat
  if inRuns rightRuns n then .right
  else if inRuns arabicRuns n then .arabicDigit
  else if inRuns europeanRuns n then .europeanDigit
  else if inRuns neutralRuns n then .neutral
  else if inRuns markRuns n then .mark
  else .left

/-- Whether a character is written from right to left or among such. -/
def isRightward (c : Char) : Bool :=
  inRuns rightRuns c.toNat || inRuns arabicRuns c.toNat

/-- Whether the directions behind the first of a label agree with it. They must end in a letter of
the same direction or a digit, and digits of the two kinds do not mix. -/
def agrees (first : Direction) (rest : List Direction) : Bool :=
  let rest := (rest.reverse.dropWhile (· == .mark)).reverse
  match first with
  | .left =>
    rest.all (fun d => d != .right && d != .arabicDigit) &&
      rest.getLast?.all (fun d => d == .left || d == .europeanDigit)
  | .right =>
    rest.all (· != .left) && !(rest.contains .arabicDigit && rest.contains .europeanDigit) &&
      rest.getLast?.all (fun d => d == .right || d == .arabicDigit || d == .europeanDigit)
  | _ => false

def isDirected (label : List Char) : Bool :=
  match label.map direction with
  | [] => true
  | first :: rest => agrees first rest

example : isDirected "\u05d0-1".toList = true := by decide +kernel

example : isDirected "1\u05d0".toList = false := by decide +kernel

end ServiceClient.Domain
