/-! Binary floating-point numbers, computed exactly: a nonnegative ratio is rounded to the nearest
number of a format, a tie going to the even mantissa, and products and quotients are rounded
once. -/

namespace ServiceClient.Number

structure Format where
  /-- Mantissa bits, the leading one included. -/
  precision : Nat
  /-- The least number above zero is `2 ^ -tiny`. -/
  tiny : Nat
  exponentBits : Nat
  deriving DecidableEq

namespace Format

def single : Format := ⟨24, 149, 8⟩

def double : Format := ⟨53, 1074, 11⟩

/-- The magnitude code of infinity; a larger code is no number. -/
def infinity (f : Format) : Nat :=
  (Nat.pow 2 f.exponentBits - 1) * Nat.pow 2 (f.precision - 1)

def notANumber (f : Format) : Nat :=
  f.infinity + Nat.pow 2 (f.precision - 2)

end Format

/-- A sign and a magnitude code. Codes count the magnitudes of the format upward from zero. -/
structure Binary (f : Format) where
  negative : Bool
  magnitude : Nat
  deriving DecidableEq

abbrev Double := Binary Format.double

abbrev Single := Binary Format.single

/-- The quotient rounded to the nearest integer, a tie to even. -/
def roundDiv (num den : Nat) : Nat :=
  let q := num / den
  let r := num % den
  if 2 * r < den then q
  else if den < 2 * r then q + 1
  else q + q % 2

/-- The greatest `k` with `2 ^ k ≤ num / den`, for positive `num` and `den`. -/
def floorLog2 (num den : Nat) : Int :=
  let k : Int := (Nat.log2 num : Int) - (Nat.log2 den : Int)
  if (if 0 ≤ k then den * Nat.pow 2 k.toNat ≤ num else den ≤ num * Nat.pow 2 (-k).toNat) then k
  else k - 1

namespace Binary
variable {f : Format}

def ofRatio (f : Format) (negative : Bool) (num den : Nat) : Binary f :=
  if num = 0 then ⟨negative, 0⟩
  else
    let lowest : Int := -(f.tiny : Int)
    let q := max lowest (floorLog2 num den - ((f.precision : Int) - 1))
    let n :=
      if 0 ≤ q then roundDiv num (den * Nat.pow 2 q.toNat)
      else roundDiv (num * Nat.pow 2 (-q).toNat) den
    ⟨negative, min f.infinity ((q - lowest).toNat * Nat.pow 2 (f.precision - 1) + n)⟩

/-- `m` and `q` such that a finite magnitude is `m * 2 ^ q`. -/
def parts (x : Binary f) : Nat × Int :=
  let hidden := Nat.pow 2 (f.precision - 1)
  let e := x.magnitude / hidden
  let fraction := x.magnitude % hidden
  if e = 0 then (fraction, -(f.tiny : Int)) else (hidden + fraction, (e : Int) - 1 - f.tiny)

/-- A finite magnitude as a ratio. -/
def ratio (x : Binary f) : Nat × Nat :=
  let (m, q) := x.parts
  if 0 ≤ q then (m * Nat.pow 2 q.toNat, 1) else (m, Nat.pow 2 (-q).toNat)

def isInfinite (x : Binary f) : Bool :=
  x.magnitude == f.infinity

def isNaN (x : Binary f) : Bool :=
  f.infinity < x.magnitude

def isZero (x : Binary f) : Bool :=
  x.magnitude == 0

def neg (x : Binary f) : Binary f :=
  ⟨!x.negative, x.magnitude⟩

def ofInt (f : Format) (n : Int) : Binary f :=
  ofRatio f (n < 0) n.natAbs 1

/-- The product of finite numbers. -/
def mul (x y : Binary f) : Binary f :=
  let (a, b) := x.ratio
  let (c, d) := y.ratio
  ofRatio f (x.negative != y.negative) (a * c) (b * d)

/-- The quotient of finite numbers, for a divisor other than zero. -/
def div (x y : Binary f) : Binary f :=
  let (a, b) := x.ratio
  let (c, d) := y.ratio
  ofRatio f (x.negative != y.negative) (a * d) (b * c)

/-- The nearest number of another format. -/
def convert (g : Format) (x : Binary f) : Binary g :=
  if x.isNaN then ⟨x.negative, g.notANumber⟩
  else if x.isInfinite then ⟨x.negative, g.infinity⟩
  else
    let (num, den) := x.ratio
    ofRatio g x.negative num den

/-- `digits * 10 ^ exponent`, rounded once. An exponent that no nonzero digits can bring back into
the range of the formats is settled without computing the power. -/
def ofDecimal (f : Format) (negative : Bool) (digits : Nat) (exponent : Int) : Binary f :=
  if digits = 0 then ⟨negative, 0⟩
  else
    let size : Int := (Nat.log2 digits : Int) * 30103 / 100000 + exponent
    if 400 < size then ⟨negative, f.infinity⟩
    else if size < -400 then ⟨negative, 0⟩
    else if 0 ≤ exponent then ofRatio f negative (digits * Nat.pow 10 exponent.toNat) 1
    else ofRatio f negative digits (Nat.pow 10 (-exponent).toNat)

end Binary
end ServiceClient.Number
