import ServiceClient.Json.Value

/-! The grammar of JSON texts, as relations between a text, what stands at its head and the rest
behind that. The value that a text writes has all members of its objects, in the order of the
text. -/

namespace ServiceClient.Json

/-- White space, or none, in front of `rest`. -/
inductive Spaces : List UInt8 → List UInt8 → Prop
  | none (rest : List UInt8) : Spaces rest rest
  | more {b : UInt8} {s rest : List UInt8} (space : isSpace b) (spaces : Spaces s rest) :
      Spaces (b :: s) rest

/-- One digit or more. -/
inductive Digits : List UInt8 → List Char → List UInt8 → Prop
  | run {bytes : List UInt8} (some : bytes ≠ []) (digits : ∀ b ∈ bytes, isDigit b)
      (rest : List UInt8) : Digits (bytes ++ rest) (charsOf bytes) rest

inductive Sign : List UInt8 → Bool → List UInt8 → Prop
  | none (s : List UInt8) : Sign s false s
  | minus (s : List UInt8) : Sign (0x2D :: s) true s

/-- A whole part has no leading zero. -/
inductive WholePart : List UInt8 → List Char → List UInt8 → Prop
  | zero (rest : List UInt8) : WholePart (0x30 :: rest) ['0'] rest
  | digits {b : UInt8} {s rest : List UInt8} {ds : List Char} (leading : b ≠ 0x30)
      (digits : Digits (b :: s) ds rest) : WholePart (b :: s) ds rest

inductive FractionPart : List UInt8 → Option (List Char) → List UInt8 → Prop
  | none (s : List UInt8) : FractionPart s none s
  | digits {s rest : List UInt8} {ds : List Char} (digits : Digits s ds rest) :
      FractionPart (0x2E :: s) (some ds) rest

inductive ExponentSign : List UInt8 → Bool → List UInt8 → Prop
  | none (s : List UInt8) : ExponentSign s false s
  | plus (s : List UInt8) : ExponentSign (0x2B :: s) false s
  | minus (s : List UInt8) : ExponentSign (0x2D :: s) true s

inductive ExponentPart : List UInt8 → Option (Bool × List Char) → List UInt8 → Prop
  | none (s : List UInt8) : ExponentPart s none s
  | digits {b : UInt8} {s t rest : List UInt8} {negative : Bool} {ds : List Char}
      (mark : b = 0x65 ∨ b = 0x45) (sign : ExponentSign s negative t) (digits : Digits t ds rest) :
      ExponentPart (b :: s) (some (negative, ds)) rest

inductive NumberText : List UInt8 → Literal → List UInt8 → Prop
  | parts {s t u v rest : List UInt8} {l : Literal} (sign : Sign s l.negative t)
      (whole : WholePart t l.whole u) (fraction : FractionPart u l.fraction v)
      (exponent : ExponentPart v l.exponent rest) : NumberText s l rest

/-- The bytes that a string spells, from behind its opening quote. An escape of four digits is a
scalar value, or half of a pair that makes one. -/
inductive StringText : List UInt8 → List UInt8 → List UInt8 → Prop
  | close (rest : List UInt8) : StringText (0x22 :: rest) [] rest
  | plain {b : UInt8} {s bytes rest : List UInt8} (visible : 0x20 ≤ b) (quote : b ≠ 0x22)
      (escape : b ≠ 0x5C) (text : StringText s bytes rest) :
      StringText (b :: s) (b :: bytes) rest
  | short {b e : UInt8} {s bytes rest : List UInt8} (stands : shortEscape? b = some e)
      (text : StringText s bytes rest) : StringText (0x5C :: b :: s) (e :: bytes) rest
  | unit {a b c d : UInt8} {n : Nat} {s bytes rest : List UInt8} (number : hex4? a b c d = some n)
      (leading : isLeading n = false) (trailing : isTrailing n = false)
      (text : StringText s bytes rest) :
      StringText (0x5C :: 0x75 :: a :: b :: c :: d :: s)
        (String.utf8EncodeChar (Char.ofNat n) ++ bytes) rest
  | pair {a b c d a' b' c' d' : UInt8} {n m : Nat} {s bytes rest : List UInt8}
      (first : hex4? a b c d = some n) (leading : isLeading n) (second : hex4? a' b' c' d' = some m)
      (trailing : isTrailing m) (text : StringText s bytes rest) :
      StringText (0x5C :: 0x75 :: a :: b :: c :: d :: 0x5C :: 0x75 :: a' :: b' :: c' :: d' :: s)
        (String.utf8EncodeChar (Char.ofNat (0x10000 + (n - 0xD800) * 0x400 + (m - 0xDC00))) ++
          bytes) rest

/-- A string in quotes whose bytes are those of a text. -/
inductive QuotedText : List UInt8 → String → List UInt8 → Prop
  | quoted {s rest : List UInt8} {text : String} (spelt : StringText s (Text.utf8 text) rest) :
      QuotedText (0x22 :: s) text rest

/-- A value that is neither list nor object. A number must lie in the range of its kind. -/
inductive LeafText : List UInt8 → Value → List UInt8 → Prop
  | null (rest : List UInt8) : LeafText (Text.utf8 "null" ++ rest) .null rest
  | bool (b : Bool) (rest : List UInt8) :
      LeafText (Text.utf8 (if b then "true" else "false") ++ rest) (.bool b) rest
  | number {s rest : List UInt8} {l : Literal} {n : Numeral} (text : NumberText s l rest)
      (value : Numeral.ofLiteral l = .ok n) : LeafText s (.number n) rest
  | string {s rest : List UInt8} {text : String} (quoted : QuotedText s text rest) :
      LeafText s (.string text) rest

section Separated
variable {α : Type}

/-- Elements separated by commas, up to a closing bracket. -/
inductive Separated (element : List UInt8 → α → List UInt8 → Prop) (close : UInt8) :
    List UInt8 → List α → List UInt8 → Prop
  | last {s t rest : List UInt8} {x : α} (head : element s x t) (ends : Spaces t (close :: rest)) :
      Separated element close s [x] rest
  | more {s t u v rest : List UInt8} {x : α} {xs : List α} (head : element s x t)
      (comma : Spaces t (0x2C :: u)) (spaces : Spaces u v)
      (others : Separated element close v xs rest) : Separated element close s (x :: xs) rest

/-- What stands between brackets, from behind the opening one. -/
inductive Bracketed (element : List UInt8 → α → List UInt8 → Prop) (close : UInt8) :
    List UInt8 → List α → List UInt8 → Prop
  | empty {s rest : List UInt8} (ends : Spaces s (close :: rest)) :
      Bracketed element close s [] rest
  | filled {s t rest : List UInt8} {xs : List α} (spaces : Spaces s t)
      (elements : Separated element close t xs rest) : Bracketed element close s xs rest

end Separated

/-- A member of an object: its name, a colon and its value. -/
inductive MemberText (value : List UInt8 → Value → List UInt8 → Prop) :
    List UInt8 → String × Value → List UInt8 → Prop
  | named {s t u v rest : List UInt8} {name : String} {x : Value} (key : QuotedText s name t)
      (colon : Spaces t (0x3A :: u)) (spaces : Spaces u v) (held : value v x rest) :
      MemberText value s (name, x) rest

/-- A value whose parts are `inner` ones. -/
inductive Nested (inner : List UInt8 → Value → List UInt8 → Prop) :
    List UInt8 → Value → List UInt8 → Prop
  | leaf {s rest : List UInt8} {v : Value} (text : LeafText s v rest) : Nested inner s v rest
  | array {s rest : List UInt8} {items : List Value} (text : Bracketed inner 0x5D s items rest) :
      Nested inner (0x5B :: s) (.array items) rest
  | object {s rest : List UInt8} {entries : List (String × Value)}
      (text : Bracketed (MemberText inner) 0x7D s entries rest) :
      Nested inner (0x7B :: s) (.object entries) rest

/-- A value with lists and objects nested at most `depth` deep. -/
def ValueText : (depth : Nat) → List UInt8 → Value → List UInt8 → Prop
  | 0 => LeafText
  | depth + 1 => Nested (ValueText depth)

/-- A whole text: one value with white space around it. -/
inductive Writes : List UInt8 → Value → Prop
  | text {bytes s rest : List UInt8} {v : Value} (lead : Spaces bytes s)
      (value : ValueText Value.maxDepth s v rest) (trail : Spaces rest []) : Writes bytes v

/-! Where a value ends, and that it takes some of its text. -/

/-- What may stand behind a value: white space, a comma or a closing bracket, or nothing. -/
def Ends (rest : List UInt8) : Prop :=
  ∀ b ∈ rest.head?, isSpace b ∨ b = 0x2C ∨ b = 0x5D ∨ b = 0x7D

end ServiceClient.Json
