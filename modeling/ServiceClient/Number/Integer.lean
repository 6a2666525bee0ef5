import ServiceClient.Text.Blank

/-! Decimal text of integers: reading a sign and digits, within the range of a two's complement
width. -/

namespace ServiceClient.Number

def digitsValue (s : List Char) : Nat :=
  s.foldl (fun n c => n * 10 + (c.toNat - 48)) 0

def natural? (s : List Char) : Option Nat :=
  if !s.isEmpty && s.all Char.isDigit then some (digitsValue s) else none

/-- A sign and what it stands before: `true` for minus. -/
def splitSign : List Char → Bool × List Char
  | '-' :: s => (true, s)
  | '+' :: s => (false, s)
  | s => (false, s)

def integer? (s : List Char) : Option Int :=
  let (negative, digits) := splitSign s
  (natural? digits).map fun n => if negative then -(n : Int) else n

def fits (bits : Nat) (n : Int) : Bool :=
  -(Nat.pow 2 (bits - 1) : Int) ≤ n && n < (Nat.pow 2 (bits - 1) : Int)

/-- The integer that `s` denotes, if a two's complement word of `bits` bits holds it. -/
def word? (bits : Nat) (s : List Char) : Option Int :=
  (integer? s).filter (fits bits)

example : word? 32 "-2147483648".toList = some (-2147483648) := by decide +kernel

example : word? 32 "2147483648".toList = none := by decide +kernel

end ServiceClient.Number
