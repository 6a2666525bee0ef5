/-! UTF-8: the bytes of a text, and the reading of bytes either strictly or with every maximal
ill-formed part replaced by U+FFFD. -/

namespace ServiceClient.Text

def utf8 (s : String) : List UInt8 :=
  s.toList.flatMap String.utf8EncodeChar

namespace Utf8

def tail (b : UInt8) : Bool :=
  0x80 ≤ b && b ≤ 0xBF

/-- The second bytes that may follow the first byte `a` of three. -/
def second3 (a b : UInt8) : Bool :=
  if a == 0xE0 then 0xA0 ≤ b && b ≤ 0xBF
  else if a == 0xED then 0x80 ≤ b && b ≤ 0x9F
  else tail b

/-- The second bytes that may follow the first byte `a` of four. -/
def second4 (a b : UInt8) : Bool :=
  if a == 0xF0 then 0x90 ≤ b && b ≤ 0xBF
  else if a == 0xF4 then 0x80 ≤ b && b ≤ 0x8F
  else tail b

/-- The scalar value that a first byte, cut to `bits`, makes with the tails after it. -/
def join (bits : Nat) (a : UInt8) (tails : List UInt8) : Char :=
  Char.ofNat (tails.foldl (fun n b => n * 64 + b.toNat % 64) (a.toNat % Nat.pow 2 bits))

/-- The scalar values that `bytes` spell, with `none` for each maximal ill-formed part. -/
def scan : List UInt8 → List (Option Char)
  | [] => []
  | a :: s =>
    if a < 0x80 then some (Char.ofNat a.toNat) :: scan s
    else if 0xC2 ≤ a && a ≤ 0xDF then
      match s with
      | [] => [none]
      | b :: t => if tail b then some (join 5 a [b]) :: scan t else none :: scan (b :: t)
    else if 0xE0 ≤ a && a ≤ 0xEF then
      match s with
      | [] => [none]
      | b :: t =>
        if second3 a b then
          match t with
          | [] => [none]
          | c :: u => if tail c then some (join 4 a [b, c]) :: scan u else none :: scan (c :: u)
        else none :: scan (b :: t)
    else if 0xF0 ≤ a && a ≤ 0xF4 then
      match s with
      | [] => [none]
      | b :: t =>
        if second4 a b then
          match t with
          | [] => [none]
          | c :: u =>
            if tail c then
              match u with
              | [] => [none]
              | d :: v =>
                if tail d then some (join 3 a [b, c, d]) :: scan v else none :: scan (d :: v)
            else none :: scan (c :: u)
        else none :: scan (b :: t)
    else none :: scan s

/-- The text of well-formed bytes. -/
def decode? (bytes : List UInt8) : Option String :=
  ((scan bytes).mapM id).map String.ofList

/-- The text of `bytes` with U+FFFD in place of each maximal ill-formed part. -/
def decodeLossy (bytes : List UInt8) : String :=
  String.ofList ((scan bytes).map (·.getD '\uFFFD'))

example : decode? (utf8 "aé€😀") = some "aé€😀" := by decide +kernel

example : decode? [0xC0, 0x80] = none := by decide +kernel

example : decodeLossy [0x61, 0xE2, 0x82, 0x62, 0xF0, 0x90] = "a\uFFFDb\uFFFD" := by decide +kernel

end Utf8
end ServiceClient.Text
