import ServiceClient.Text.Normal.MarkClass
import ServiceClient.Text.Normal.Table

/-! Canonical normalization. Text is taken apart, the marks behind each base are put in the order of
their classes, and what composes is composed again, so that equivalent texts become one text. -/

namespace ServiceClient.Text.Normal

/-! Syllables of Hangul are numbered by their leading consonant, vowel and trailing consonant. -/

def leadBase : Nat := 0x1100

def vowelBase : Nat := 0x1161

def trailBase : Nat := 0x11A7

def syllableBase : Nat := 0xAC00

def leadCount : Nat := 19

def vowelCount : Nat := 21

/-- One more than there are trailing consonants, as a syllable may have none. -/
def trailCount : Nat := 28

def syllableParts? (n : Nat) : Option (List Char) :=
  let i := n - syllableBase
  if syllableBase ≤ n && i < leadCount * vowelCount * trailCount then
    let pair :=
      [Char.ofNat (leadBase + i / (vowelCount * trailCount)),
        Char.ofNat (vowelBase + i / trailCount % vowelCount)]
    some (if i % trailCount = 0 then pair else pair ++ [Char.ofNat (trailBase + i % trailCount)])
  else none

def syllable? (a b : Char) : Option Char :=
  let lead := a.toNat - leadBase
  let vowel := b.toNat - vowelBase
  let trail := b.toNat - trailBase
  let openIndex := a.toNat - syllableBase
  if leadBase ≤ a.toNat && lead < leadCount && vowelBase ≤ b.toNat && vowel < vowelCount then
    some (Char.ofNat (syllableBase + (lead * vowelCount + vowel) * trailCount))
  else if syllableBase ≤ a.toNat && openIndex < leadCount * vowelCount * trailCount &&
      openIndex % trailCount == 0 && trailBase < b.toNat && trail < trailCount then
    some (Char.ofNat (a.toNat + trail))
  else none

/-- A character fully taken apart. -/
def parts (c : Char) : List Char :=
  let n := c.toNat
  if n < 0x80 then [c]
  else
    match (composites.lookup n).or (expansions.lookup n) with
    | some s => s.toList
    | none =>
      match substitutes.lookup n with
      | some m => [Char.ofNat m]
      | none => (syllableParts? n).getD [c]

/-- The character that two compose to: the one whose parts are theirs together. What stands before
the first mark in the order of characters composes with none before it. -/
def composite? (a b : Char) : Option Char :=
  if b.toNat < firstMark then none
  else
    match syllable? a b with
    | some c => some c
    | none =>
      let s := String.ofList (parts a ++ [b])
      (composites.find? (·.2 == s)).map (Char.ofNat ·.1)

/-- Puts a mark before those behind the same base whose class is greater. `done` holds the text so
far, newest first. -/
def place (c : Char) : List Char → List Char
  | [] => [c]
  | d :: done =>
    if markClass c != 0 && markClass c < markClass d then d :: place c done else c :: d :: done

def ordered (s : List Char) : List Char :=
  (s.foldl (fun done c => place c done) []).reverse

/-- Composes the text behind `base`. The marks between, newest first, did not compose with it, and
one of them hides what follows if its class is not smaller. -/
def composeFrom (base : Char) (between : List Char) : List Char → List Char
  | [] => base :: between.reverse
  | c :: s =>
    let hidden := between.head?.any fun d => markClass c ≤ markClass d
    match if hidden then none else composite? base c with
    | some b => composeFrom b between s
    | none =>
      if markClass c = 0 then base :: between.reverse ++ composeFrom c [] s
      else composeFrom base (c :: between) s

def composed : List Char → List Char
  | [] => []
  | c :: s => if markClass c = 0 then composeFrom c [] s else c :: composed s

def normalize (s : List Char) : List Char :=
  if s.all (·.toNat < 0x80) then s else composed (ordered (s.flatMap parts))

example : normalize "a\u0323\u0302".toList = ['\u1ead'] := by decide +kernel

example : normalize "\u212b\u1100\u1161\u11a8".toList = ['\u00c5', '\uac01'] := by decide +kernel

end ServiceClient.Text.Normal
