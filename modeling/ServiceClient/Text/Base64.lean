/-! Base 64 with the standard alphabet. Reading accepts exactly what writing produces: padding is
required and the unused trailing bits are zero. -/

namespace ServiceClient.Text.Base64

def digit (n : Nat) : Char :=
  if n < 26 then Char.ofNat (65 + n)
  else if n < 52 then Char.ofNat (71 + n)
  else if n < 62 then Char.ofNat (n - 4)
  else if n = 62 then '+'
  else '/'

def value? (c : Char) : Option Nat :=
  if c.isUpper then some (c.toNat - 65)
  else if c.isLower then some (c.toNat - 71)
  else if c.isDigit then some (c.toNat + 4)
  else if c == '+' then some 62
  else if c == '/' then some 63
  else none

def encode : List UInt8 → List Char
  | [] => []
  | [a] => [digit (a.toNat / 4), digit (a.toNat % 4 * 16), '=', '=']
  | [a, b] =>
    [digit (a.toNat / 4), digit (a.toNat % 4 * 16 + b.toNat / 16), digit (b.toNat % 16 * 4), '=']
  | a :: b :: c :: s =>
    digit (a.toNat / 4) :: digit (a.toNat % 4 * 16 + b.toNat / 16) ::
      digit (b.toNat % 16 * 4 + c.toNat / 64) :: digit (c.toNat % 64) :: encode s

/-- The bytes of a last group, which may be padded. -/
def decodeLast (w x y z : Char) : Option (List UInt8) := do
  let i ← value? w
  let j ← value? x
  if y == '=' && z == '=' then
    if j % 16 = 0 then some [UInt8.ofNat (i * 4 + j / 16)] else none
  else
    let k ← value? y
    if z == '=' then
      if k % 4 = 0 then
        some [UInt8.ofNat (i * 4 + j / 16), UInt8.ofNat (j % 16 * 16 + k / 4)]
      else none
    else
      let l ← value? z
      some [UInt8.ofNat (i * 4 + j / 16), UInt8.ofNat (j % 16 * 16 + k / 4),
        UInt8.ofNat (k % 4 * 64 + l)]

def decodeFull (w x y z : Char) : Option (List UInt8) := do
  let i ← value? w
  let j ← value? x
  let k ← value? y
  let l ← value? z
  some [UInt8.ofNat (i * 4 + j / 16), UInt8.ofNat (j % 16 * 16 + k / 4),
    UInt8.ofNat (k % 4 * 64 + l)]

def decode : List Char → Option (List UInt8)
  | [] => some []
  | [w, x, y, z] => decodeLast w x y z
  | w :: x :: y :: z :: s => do
    let group ← decodeFull w x y z
    let rest ← decode s
    some (group ++ rest)
  | _ => none

def encodeText (bytes : List UInt8) : String :=
  String.ofList (encode bytes)

def decodeText (s : String) : Option (List UInt8) :=
  decode s.toList

example : decode (encode [0, 255, 16, 7]) = some [0, 255, 16, 7] := by decide +kernel

example : decode ['A', 'B', '=', '='] = none := by decide +kernel

end ServiceClient.Text.Base64
