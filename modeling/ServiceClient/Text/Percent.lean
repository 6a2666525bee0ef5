import ServiceClient.Number.Hexadecimal
import ServiceClient.Text.Utf8

/-! Percent encoding: every byte of the UTF-8 form that is not kept as a character becomes `%XX`. -/

namespace ServiceClient.Text

def upperHex (n : Nat) : Char :=
  if n < 10 then Char.ofNat (48 + n) else Char.ofNat (55 + n)

def percentByte (b : UInt8) : List Char :=
  ['%', upperHex (b.toNat / 16), upperHex (b.toNat % 16)]

/-- Letters, digits and `- _ . ~`. -/
def unreserved (c : Char) : Bool :=
  c.isAlphanum || c == '-' || c == '_' || c == '.' || c == '~'

def percentChars (keep : Char → Bool) (s : List Char) : List Char :=
  s.flatMap fun c => if keep c then [c] else (String.utf8EncodeChar c).flatMap percentByte

def percentEncode (keep : Char → Bool) (s : String) : String :=
  String.ofList (percentChars keep s.toList)

/-- The byte that two digits make. -/
def hexByte? (high low : UInt8) : Option UInt8 := do
  let h ← Number.hexDigit? (Char.ofNat high.toNat)
  let l ← Number.hexDigit? (Char.ofNat low.toNat)
  some (UInt8.ofNat (h * 16 + l))

/-- The bytes that are encoded; a percent sign without two digits stands for itself. -/
def percentBytes : List UInt8 → List UInt8
  | b :: x :: y :: s =>
    match if b = 0x25 then hexByte? x y else none with
    | some c => c :: percentBytes s
    | none => b :: percentBytes (x :: y :: s)
  | s => s

/-- The text that is encoded, if its bytes are one. -/
def percentDecode? (s : List Char) : Option String :=
  Utf8.decode? (percentBytes (utf8 (String.ofList s)))

example : percentEncode unreserved "w 1/é~" = "w%201%2F%C3%A9~" := by decide +kernel

example : percentDecode? "%c3%A9%4".toList = some "é%4" := by decide +kernel

example : percentDecode? "%c3".toList = none := by decide +kernel

end ServiceClient.Text
