/-! Numbers to base 16, with digits of either case. -/

namespace ServiceClient.Number

def hexDigit? (c : Char) : Option Nat :=
  if c.isDigit then some (c.toNat - 48)
  else if 'a' ≤ c && c ≤ 'f' then some (c.toNat - 87)
  else if 'A' ≤ c && c ≤ 'F' then some (c.toNat - 55)
  else none

def hexadecimal? (s : List Char) : Option Nat :=
  if s.isEmpty then none
  else (s.mapM hexDigit?).map fun ds => ds.foldl (fun n d => n * 16 + d) 0

example : hexadecimal? ['1', 'f', 'E'] = some 510 := by decide +kernel

end ServiceClient.Number
