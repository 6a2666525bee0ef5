import ServiceClient.Number.Binary

/-! The shortest decimal that reads back to a given binary number, and of those the nearest. For one
digit, two digits and so on, the two neighbours of the number on that decimal grid are tried. -/

namespace ServiceClient.Number

/-- `digits * 10 ^ exponent`. -/
structure Decimal where
  digits : Nat
  exponent : Int
  deriving DecidableEq

/-- Whether `10 ^ k ≤ num / den`. -/
def tenPowerLe (k : Int) (num den : Nat) : Bool :=
  if 0 ≤ k then Nat.pow 10 k.toNat * den ≤ num else den ≤ num * Nat.pow 10 (-k).toNat

/-- The greatest `k` with `10 ^ k ≤ num / den`, for positive `num` and `den`. -/
def floorLog10 (num den : Nat) : Int :=
  let k := floorLog2 num den * 30103 / 100000
  if tenPowerLe (k + 1) num den then k + 1 else if tenPowerLe k num den then k else k - 1

/-- The numbers that round to a given one: a ratio's numerator between `low` and `high` over `den`,
the ends included when `closed`. -/
structure Neighbourhood where
  low : Nat
  value : Nat
  high : Nat
  den : Nat
  closed : Bool

/-- Which of two decimals that are equally near is taken: the greater one or that with an even last
digit. -/
inductive Tie where
  | up
  | even
  deriving DecidableEq

namespace Neighbourhood

def contains (s : Neighbourhood) (num den : Nat) : Bool :=
  if s.closed then s.low * den ≤ num * s.den && num * s.den ≤ s.high * den
  else s.low * den < num * s.den && num * s.den < s.high * den

/-- The multiple of `10 ^ k` that rounds to the value and is nearest to it, if there is one. -/
def onGrid (s : Neighbourhood) (tie : Tie) (k : Int) : Option Decimal :=
  let up := if 0 ≤ k then Nat.pow 10 k.toNat else 1
  let down := if 0 ≤ k then 1 else Nat.pow 10 (-k).toNat
  let d := s.value * down / (s.den * up)
  let r := s.value * down % (s.den * up)
  match s.contains (d * up) down, s.contains ((d + 1) * up) down with
  | true, true =>
    let above :=
      if 2 * r = s.den * up then tie == .up || d % 2 == 1 else decide (s.den * up < 2 * r)
    some ⟨if above then d + 1 else d, k⟩
  | true, false => some ⟨d, k⟩
  | false, true => some ⟨d + 1, k⟩
  | false, false => none

end Neighbourhood

/-- The numbers that round to a finite, nonzero magnitude. The gap below a power of two is half as
wide as the gap above it. -/
def Binary.neighbourhood {f : Format} (x : Binary f) : Neighbourhood :=
  let (m, q) := x.parts
  let up := if 2 ≤ q then Nat.pow 2 (q - 2).toNat else 1
  let den := if 2 ≤ q then 1 else Nat.pow 2 (2 - q).toNat
  let below := if m = Nat.pow 2 (f.precision - 1) && -(f.tiny : Int) < q then 1 else 2
  ⟨(4 * m - below) * up, 4 * m * up, (4 * m + 2) * up, den, m % 2 == 0⟩

def firstGrid (s : Neighbourhood) (tie : Tie) (top : Int) : Nat → Option Decimal
  | 0 => none
  | n + 1 => (s.onGrid tie top).or (firstGrid s tie (top - 1) n)

def dropZeros : Nat → Decimal → Decimal
  | 0, d => d
  | n + 1, d => if d.digits % 10 = 0 then dropZeros n ⟨d.digits / 10, d.exponent + 1⟩ else d

/-- The shortest decimal of a finite magnitude; that of zero is zero. Seventeen digits always
suffice for the formats here. -/
def Binary.shortest {f : Format} (tie : Tie) (x : Binary f) : Decimal :=
  if x.magnitude = 0 then ⟨0, 0⟩
  else
    let s := x.neighbourhood
    dropZeros 20 ((firstGrid s tie (floorLog10 s.value s.den) 17).getD ⟨0, 0⟩)

example : (Binary.ofDecimal .double false 3 (-1)).shortest .up = ⟨3, -1⟩ := by decide +kernel

example : (⟨false, 1⟩ : Double).shortest .up = ⟨5, -324⟩ := by decide +kernel

example : (Binary.ofDecimal .single false 16777217 0).shortest .up = ⟨16777216, 0⟩ := by
  decide +kernel

example : (Binary.ofDecimal .double false 85119859358848725 (-2)).shortest .even =
    ⟨8511985935884872, -1⟩ := by decide +kernel

end ServiceClient.Number
