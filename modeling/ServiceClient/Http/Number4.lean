import ServiceClient.Number.Hexadecimal
import ServiceClient.Number.Integer
import ServiceClient.Text.Lines

/-! Hosts by numbers of version 4 of the internet protocol. -/

namespace ServiceClient.Http
open ServiceClient.Number (hexadecimal? natural?)
open ServiceClient.Text (splitAt)

def octal? (s : List Char) : Option Nat :=
  if s.all fun c => '0' ≤ c && c ≤ '7' then natural? s |>.map fun _ =>
    s.foldl (fun n c => n * 8 + (c.toNat - 48)) 0
  else none

/-- A part of such a number: decimal, octal after `0`, or hexadecimal after `0x`. -/
def numberPart? (s : List Char) : Option Nat :=
  match s with
  | [] => none
  | ['0'] => some 0
  | '0' :: c :: digits =>
    if c = 'x' || c = 'X' then (if digits.isEmpty then some 0 else hexadecimal? digits)
    else octal? (c :: digits)
  | _ => natural? s

/-- The parts of a name; one empty part at the end does not count. -/
def nameParts (s : List Char) : List (List Char) :=
  let parts := splitAt '.' s
  if 1 < parts.length && parts.getLast? = some [] then parts.dropLast else parts

/-- Whether the last part makes the whole name a number. -/
def endsInNumber (s : List Char) : Bool :=
  match (nameParts s).getLast? with
  | none => false
  | some last => (!last.isEmpty && last.all Char.isDigit) || (numberPart? last).isSome

/-- The bytes of a number: at most four parts, of which the last fills the bytes that the others
leave. -/
def number4? (s : List Char) : Option (List Nat) :=
  match (nameParts s).mapM numberPart? with
  | none => none
  | some parts =>
    let bytes := parts.dropLast
    let left := 4 - bytes.length
    let last := parts.getLast?.getD 0
    if parts.length ≤ 4 && bytes.all (· ≤ 255) && last < Nat.pow 256 left then
      some (bytes ++ (List.range left).reverse.map fun i => last / Nat.pow 256 i % 256)
    else none

def number4Text (bytes : List Nat) : List Char :=
  List.intercalate ['.'] (bytes.map (Nat.toDigits 10))

example : (number4? "0x7f.1".toList).map number4Text = some "127.0.0.1".toList := by decide +kernel

example : number4? "1.2.3.256".toList = none := by decide +kernel

end ServiceClient.Http
