import ServiceClient.Text.Hidden

/-! Quoted text: a string literal of generated source code, and the quoting of found text in
messages. Both escape what cannot be seen and differ only in NUL. -/

namespace ServiceClient.Text

/-- The digits of `n` to base 16, lower case, without leading zeros. -/
def hexDigits (n : Nat) : List Char :=
  Nat.toDigits 16 n

def escapeChar (c : Char) : List Char :=
  if c == '\\' then ['\\', '\\']
  else if c == '"' then ['\\', '"']
  else if c == '\n' then ['\\', 'n']
  else if c == '\r' then ['\\', 'r']
  else if c == '\t' then ['\\', 't']
  else if c.toNat < 0x20 || c.toNat == 0x7F || (0x80 ≤ c.toNat && isHidden c) then
    ['\\', 'u', '\x7b'] ++ hexDigits c.toNat ++ ['\x7d']
  else [c]

/-- NUL is `\0`, or `\x00` before an octal digit, which could be taken for part of a longer
escape. -/
def escapeLiteral : List Char → List Char
  | [] => []
  | c :: s =>
    if c == '\x00' then
      (if s.head?.any fun d => '0' ≤ d && d ≤ '7' then ['\\', 'x', '0', '0'] else ['\\', '0'])
        ++ escapeLiteral s
    else escapeChar c ++ escapeLiteral s

def literal (s : String) : String :=
  String.ofList ('"' :: escapeLiteral s.toList ++ ['"'])

def quoted (s : String) : String :=
  let escape := fun c => if c == '\x00' then ['\\', '0'] else escapeChar c
  String.ofList ('"' :: s.toList.flatMap escape ++ ['"'])

example : literal "a\"\x00" = "\"a\\\"\\0\"" := by decide +kernel

example : literal "\x001\x01" = "\"\\x001\\u\x7b1\x7d\"" := by decide +kernel

end ServiceClient.Text
