import ServiceClient.Json.Tree
import ServiceClient.Number.Notation

/-! The numbers of JSON. An integer of 64 bits, signed or not, is kept; any other number is binary.
Reading the latter takes digits as long as they fit 64 bits and scales by a power of ten, so the
result is near the literal and not always nearest. -/

namespace ServiceClient.Json
open ServiceClient.Number

inductive Numeral where
  | int (n : Int)
  | float (x : Double)
  deriving DecidableEq

namespace Numeral

/-- The greatest unsigned word. -/
def wordMax : Nat :=
  Nat.pow 2 64 - 1

/-- Digits taken into a word until one would overflow it, and how many were left. -/
def take (start : Nat) : List Char → Nat × Nat
  | [] => (start, 0)
  | c :: s =>
    let n := start * 10 + (c.toNat - 48)
    if wordMax < n then (start, s.length + 1) else take n s

/-- `10 ^ e` rounded. -/
def tenPower (e : Nat) : Double :=
  Binary.ofRatio .double false (Nat.pow 10 e) 1

/-- `x * 10 ^ e`, in steps that stay within the range of the powers of ten. Fails where the result
is too large. -/
def scale (x : Double) (e : Int) : Nat → Option Double
  | 0 => some ⟨x.negative, 0⟩
  | steps + 1 =>
    if x.isZero then some x
    else if 308 < e then none
    else if 0 ≤ e then
      let y := x.mul (tenPower e.toNat)
      if y.isInfinite then none else some y
    else if -308 ≤ e then some (x.div (tenPower (-e).toNat))
    else scale (x.div (tenPower 308)) (e + 308) steps

/-- The exponent as written. -/
def writtenExponent (l : Literal) : Int :=
  match l.exponent with
  | none => 0
  | some (negative, ds) => if negative then -(digitsValue ds : Int) else digitsValue ds

def binary (l : Literal) : Option Double :=
  let (n, dropped) := take 0 l.whole
  let places := l.fraction.getD []
  let (n, unread) := take n places
  let shift : Int := (dropped : Int) - ((places.length : Int) - unread)
  (scale (Binary.ofRatio .double false n 1) (writtenExponent l + shift) 4).map
    fun x => ⟨l.negative, x.magnitude⟩

/-- The value of a literal, unless it lies beyond the range. Minus zero is binary. -/
def ofLiteral (l : Literal) : Except Defect Numeral :=
  let n := digitsValue l.whole
  let exact : Option Int :=
    if l.fraction.isSome || l.exponent.isSome then none
    else if l.negative then (if 0 < n && n ≤ Nat.pow 2 63 then some (-(n : Int)) else none)
    else if n ≤ wordMax then some n
    else none
  match exact with
  | some n => .ok (.int n)
  | none =>
    match binary l with
    | some x => .ok (.float x)
    | none => .error .malformed

def toDouble : Numeral → Double
  | .int n => Binary.ofInt .double n
  | .float x => x

def text : Numeral → String
  | .int n => toString n
  | .float x => x.jsonText

end Numeral
end ServiceClient.Json
