import ServiceClient.Domain.Direction
import ServiceClient.Domain.JoiningTable

/-! Joiners in labels. The two characters that only change how their neighbours join may stand where
they change the meaning: behind a mark that kills a vowel, and the one that separates also between
letters that would join. -/

namespace ServiceClient.Domain

/-- The class of marks that kill the vowel of the letter before them. -/
def killerClass : Nat := 9

def nonJoiner : Char := '\u200c'

def joiner : Char := '\u200d'

def joinsForward (c : Char) : Bool :=
  inRuns dualRuns c.toNat || inRuns forwardRuns c.toNat

def joinsBackward (c : Char) : Bool :=
  inRuns dualRuns c.toNat || inRuns backwardRuns c.toNat

/-- Marks that leave the joining of letters alone although they have a direction. -/
def transparentMarks : List Nat :=
  [0xCBF, 0xCC6, 0x11A07, 0x11A08, 0x11C3F, 0x1E94B]

def isTransparent (c : Char) : Bool :=
  direction c == .mark || transparentMarks.contains c.toNat

/-- Whether the first character that is not transparent joins. -/
def reaches (joins : Char → Bool) : List Char → Bool
  | [] => false
  | c :: s => joins c || (isTransparent c && reaches joins s)

/-- Whether the joiners of a label stand where they may. `before` holds the label up to here, newest
first. -/
def joinersFit (before : List Char) : List Char → Bool
  | [] => true
  | c :: s =>
    let fits :=
      if c = nonJoiner || c = joiner then
        before.head?.any (Text.Normal.markClass · == killerClass) ||
          (c = nonJoiner && reaches joinsForward before && reaches joinsBackward s)
      else true
    fits && joinersFit (c :: before) s

/-- Whether a character combines with the one before it. -/
def isMark (c : Char) : Bool :=
  direction c == .mark || inRuns directedMarkRuns c.toNat

example : joinersFit [] "\u0915\u094d\u200d\u0937".toList = true := by decide +kernel

example : joinersFit [] "a\u200db".toList = false := by decide +kernel

end ServiceClient.Domain
