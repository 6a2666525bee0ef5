import ServiceClient.Text.EntityTable

/-! Character references in HTML text, decoded once from left to right. A reference runs from the
last ampersand before a semicolon up to that semicolon; one that names nothing stays as written. -/

namespace ServiceClient.Text.Entity

def scalar? (n : Nat) : Option Char :=
  if n < 0xD800 || (0xE000 ≤ n && n < 0x110000) then some (Char.ofNat n) else none

/-- Controls other than tab, line feed, form feed and carriage return are no reference. -/
def numbered? (n : Nat) : Option Char :=
  if n < 0x20 && !(n == 9 || n == 10 || n == 12 || n == 13) then none else scalar? n

def digitValue? (base : Nat) (c : Char) : Option Nat :=
  let n :=
    if c.isDigit then c.toNat - 48
    else if 'a' ≤ c && c ≤ 'f' then c.toNat - 87
    else if 'A' ≤ c && c ≤ 'F' then c.toNat - 55
    else base
  if n < base then some n else none

def number? (base : Nat) : List Char → Option Nat
  | [] => none
  | c :: s => do
    let first ← digitValue? base c
    s.foldlM (fun n d => (digitValue? base d).map (n * base + ·)) first

/-- The character that the reference between an ampersand and a semicolon stands for. -/
def resolve? : List Char → Option Char
  | '#' :: 'x' :: s | '#' :: 'X' :: s => (number? 16 s).bind numbered?
  | '#' :: s => (number? 10 s).bind numbered?
  | name => named? (String.ofList name)

/-- `pending` holds, newest first, what follows an ampersand whose semicolon has not come yet. -/
def decodeFrom (pending : Option (List Char)) : List Char → List Char
  | [] =>
    match pending with
    | none => []
    | some name => '&' :: name.reverse
  | c :: s =>
    match pending with
    | none => if c == '&' then decodeFrom (some []) s else c :: decodeFrom none s
    | some name =>
      if c == '&' then '&' :: name.reverse ++ decodeFrom (some []) s
      else if c == ';' then
        match resolve? name.reverse with
        | some named => named :: decodeFrom none s
        | none => '&' :: name.reverse ++ ';' :: decodeFrom none s
      else decodeFrom (some (c :: name)) s

def decode (s : List Char) : List Char :=
  decodeFrom none s

example : decode "&lt;&amp;lt; &x;&#65;&#x1;&AMP".toList = "<&lt; &x;A&#x1;&AMP".toList := by
  decide +kernel

end ServiceClient.Text.Entity
