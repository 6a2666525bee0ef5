import ServiceClient.Text.Entity

/-! Punycode: text in the letters, digits and hyphens of ASCII. Before the last hyphen stand the
characters of the text that are ASCII. Behind it, digits to base 36 say which characters are
inserted, by ascending number, and where; how long such a number grows is expected from the one
before it. -/

namespace ServiceClient.Domain.Punycode

def base : Nat := 36

def leastThreshold : Nat := 1

def greatestThreshold : Nat := 26

def digit? (c : Char) : Option Nat :=
  if 'a' ≤ c && c ≤ 'z' then some (c.toNat - 97)
  else if 'A' ≤ c && c ≤ 'Z' then some (c.toNat - 65)
  else if c.isDigit then some (c.toNat - 22)
  else none

/-- A digit below this one is the last of its number. `weighed` is the base for each digit up to
it. -/
def threshold (bias weighed : Nat) : Nat :=
  min (max (weighed - bias) leastThreshold) greatestThreshold

theorem leastThreshold_le (bias weighed : Nat) : leastThreshold ≤ threshold bias weighed := by
  simp only [threshold, leastThreshold, greatestThreshold]
  omega

/-- How often a difference is divided before it is small, times the base, and what is left of it. -/
def shrink (delta : Nat) : Nat × Nat :=
  if (base - leastThreshold) * greatestThreshold / 2 < delta then
    let (passed, rest) := shrink (delta / (base - leastThreshold))
    (passed + base, rest)
  else (0, delta)
termination_by delta
decreasing_by
  simp only [base, leastThreshold, greatestThreshold] at *
  omega

/-- The bias for the next number, after a difference in a text that is `length` long by now. -/
def adapt (delta length : Nat) (first : Bool) : Nat :=
  let delta := if first then delta / 700 else delta / 2
  let (passed, rest) := shrink (delta + delta / length)
  passed + (base - leastThreshold + 1) * rest / (rest + 38)

def digit (n : Nat) : Char :=
  if n < 26 then Char.ofNat (97 + n) else Char.ofNat (22 + n)

/-- The digits of a number, from the last place on. -/
def writeNumber (bias n weighed : Nat) : List Char :=
  let t := threshold bias weighed
  if n < t then [digit n]
  else digit (t + (n - t) % (base - t)) :: writeNumber bias ((n - t) / (base - t)) (weighed + base)
termination_by n
decreasing_by
  have least := leastThreshold_le bias weighed
  have smaller := Nat.div_le_self (n - threshold bias weighed) (base - threshold bias weighed)
  simp only [leastThreshold] at least
  omega

structure Writing where
  digits : List Char := []
  /-- How many places have been passed since the last insertion, over all texts on the way. -/
  delta : Nat := 0
  /-- How long the text is by now. -/
  length : Nat
  bias : Nat := 72

/-- Goes past a character of the text, and writes where it is inserted if its number is `code`. -/
def writeChar (plain code : Nat) (w : Writing) (c : Char) : Writing :=
  if c.toNat < code then { w with delta := w.delta + 1 }
  else if c.toNat = code then
    { digits := w.digits ++ writeNumber w.bias w.delta base, delta := 0, length := w.length + 1,
      bias := adapt w.delta (w.length + 1) (w.length == plain) }
  else w

/-- Writes the insertions of ascending numbers into a text that holds those below `next`. -/
def writeAll (s : List Char) (plain next : Nat) (w : Writing) : List Nat → Writing
  | [] => w
  | code :: codes =>
    let passed := { w with delta := w.delta + (code - next) * (w.length + 1) }
    let written := s.foldl (writeChar plain code) passed
    writeAll s plain (code + 1) { written with delta := written.delta + 1 } codes

/-- The first number of a character that is inserted. -/
def firstCode : Nat := 128

def encode (s : List Char) : List Char :=
  let plain := s.filter (·.toNat < firstCode)
  let codes := ((s.map Char.toNat).filter (firstCode ≤ ·)).mergeSort.eraseDups
  let written := writeAll s plain.length firstCode { length := plain.length } codes
  if plain.isEmpty then written.digits else plain ++ '-' :: written.digits

structure Insertion where
  /-- The text so far. -/
  text : List Char
  /-- The number of the character that was inserted last. -/
  code : Nat := firstCode
  /-- Where the next one goes at the earliest. -/
  place : Nat := 0
  bias : Nat := 72

/-- Numbers beyond this are not read. -/
def limit : Nat := Nat.pow 2 32

/-- Inserts what the digits say. `sum` is what the digits of a number come to so far, added to the
place where it starts from; the next one counts `weight`. -/
def insertAll (i : Insertion) (sum weight weighed : Nat) : List Char → Option (List Char)
  | [] => if weighed = base then some i.text else none
  | c :: s => do
    let digit ← digit? c
    let sum := sum + digit * weight
    let t := threshold i.bias weighed
    if limit ≤ sum || limit ≤ weight then none
    else if digit < t then
      let length := i.text.length + 1
      let code := i.code + sum / length
      let c ← Text.Entity.scalar? code
      let place := sum % length
      let bias := adapt (sum - i.place) length (i.place == 0)
      insertAll ⟨i.text.insertIdx place c, code, place + 1, bias⟩ (place + 1) 1 base s
    else insertAll i sum (weight * (base - t)) (weighed + base) s

/-- The text that `s` encodes. -/
def decode? (s : List Char) : Option (List Char) :=
  let digits := (s.reverse.takeWhile (· != '-')).reverse
  let plain := s.take (s.length - digits.length - 1)
  if plain.isEmpty then insertAll { text := [] } 0 1 base s
  else insertAll { text := plain } 0 1 base digits

example : encode "bücher".toList = "bcher-kva".toList := by decide +kernel

example : decode? "bcher-kva".toList = some "bücher".toList := by decide +kernel

example : decode? "-kva".toList = none := by decide +kernel

end ServiceClient.Domain.Punycode
