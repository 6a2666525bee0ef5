import ServiceClient.Number.Integer
import ServiceClient.Number.Shortest

/-! Written forms of binary numbers: reading decimal text, and printing the shortest decimal either
positionally or, for JSON, with an exponent where the number is very large or small. -/

namespace ServiceClient.Number

def digitChars (n : Nat) : List Char :=
  Nat.toDigits 10 n

def zeros (n : Nat) : List Char :=
  List.replicate n '0'

/-- Positional notation, without a fraction when the value is whole. -/
def Decimal.positional (d : Decimal) : List Char :=
  let ds := digitChars d.digits
  if 0 ≤ d.exponent then ds ++ zeros d.exponent.toNat
  else
    let places := (-d.exponent).toNat
    if places < ds.length then
      ds.take (ds.length - places) ++ '.' :: ds.drop (ds.length - places)
    else '0' :: '.' :: zeros (places - ds.length) ++ ds

/-- One digit before the point, and a signed exponent. -/
def Decimal.scientific (d : Decimal) : List Char :=
  let ds := digitChars d.digits
  let e := d.exponent + ds.length - 1
  let fraction := if ds.length ≤ 1 then [] else '.' :: ds.drop 1
  let sign := if e < 0 then '-' else '+'
  ds.take 1 ++ fraction ++ 'e' :: sign :: digitChars e.natAbs

namespace Binary
variable {f : Format}

def signChars (x : Binary f) : List Char :=
  if x.negative then ['-'] else []

/-- Never with an exponent, a tie between digits going up; `NaN`, `inf` and `-inf` for what is not
finite. -/
def text (x : Binary f) : String :=
  if x.isNaN then "NaN"
  else if x.isInfinite then String.ofList (x.signChars ++ ['i', 'n', 'f'])
  else String.ofList (x.signChars ++ (x.shortest .up).positional)

/-- The JSON form of a finite number: always with a fraction or an exponent, the latter below `1e-5`
and from `1e16` on. -/
def jsonText (x : Binary f) : String :=
  let d := x.shortest .even
  let e := d.exponent + (digitChars d.digits).length - 1
  let body :=
    if d.digits ≠ 0 && (e < -5 || 16 ≤ e) then d.scientific
    else if 0 ≤ d.exponent then d.positional ++ ['.', '0']
    else d.positional
  String.ofList (x.signChars ++ body)

end Binary

/-- Digits before and after a point, of which there is at least one. -/
def mantissa? (s : List Char) : Option (Nat × Int × List Char) :=
  let whole := s.takeWhile Char.isDigit
  let rest := s.dropWhile Char.isDigit
  let (fraction, rest) :=
    match rest with
    | '.' :: t => (t.takeWhile Char.isDigit, t.dropWhile Char.isDigit)
    | _ => ([], rest)
  if whole.isEmpty && fraction.isEmpty then none
  else some (digitsValue (whole ++ fraction), -(fraction.length : Int), rest)

def exponent? : List Char → Option Int
  | [] => some 0
  | c :: s => if c == 'e' || c == 'E' then integer? s else none

/-- A decimal with optional sign, point and exponent, or the name of infinity or of no number in any
case. -/
def binary? (f : Format) (s : List Char) : Option (Binary f) :=
  let (negative, body) := splitSign s
  let name := String.ofList (body.map Char.toLower)
  if name == "inf" || name == "infinity" then some ⟨negative, f.infinity⟩
  else if name == "nan" then some ⟨negative, f.notANumber⟩
  else do
    let (digits, shift, rest) ← mantissa? body
    let e ← exponent? rest
    some (Binary.ofDecimal f negative digits (e + shift))

example : (binary? .double "-.5E+1".toList).map Binary.text = some "-5" := by decide +kernel

example : (binary? .double "1e21".toList).map Binary.text = some "1000000000000000000000" := by
  decide +kernel

example : (binary? .double "1e-7".toList).map Binary.jsonText = some "1e-7" := by decide +kernel

example : (binary? .double "1e39".toList).map Binary.jsonText = some "1e+39" := by decide +kernel

end ServiceClient.Number
