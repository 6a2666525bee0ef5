import ServiceClient.Number.Hexadecimal
import ServiceClient.Number.Integer
import ServiceClient.Text.Utf8

/-! References in character data: the five predefined entities, and characters by number. -/

namespace ServiceClient.Markup

def predefined : List (String × Char) :=
  [("amp", '&'), ("lt", '<'), ("gt", '>'), ("quot", '"'), ("apos", '\'')]

/-- The character with that number, other than NUL. -/
def character? (n : Nat) : Option Char :=
  if n ≠ 0 && n.isValidChar then some (Char.ofNat n) else none

/-- What stands between `&` and `;`. -/
def reference? (name : List Char) : Option Char :=
  match name with
  | '#' :: 'x' :: digits => (Number.hexadecimal? digits).bind character?
  | '#' :: digits => (Number.natural? digits).bind character?
  | _ => predefined.lookup (String.ofList name)

example : reference? "#x1F600".toList = some '😀' := by decide +kernel

example : reference? "#0".toList = none := by decide +kernel

example : reference? "apos".toList = some '\'' := by decide +kernel

end ServiceClient.Markup
