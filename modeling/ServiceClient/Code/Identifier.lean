/-! Identifiers of generated Rust code: the keywords, and which words may stand as an identifier. -/

namespace ServiceClient.Code

/-- Strict and reserved keywords of every edition. -/
def keywords : List String :=
  ["abstract", "as", "async", "await", "become", "box", "break", "const", "continue", "crate",
    "do", "dyn", "else", "enum", "extern", "false", "final", "fn", "for", "gen", "if", "impl",
    "in", "let", "loop", "macro", "match", "mod", "move", "mut", "override", "priv", "pub",
    "ref", "return", "self", "Self", "static", "struct", "super", "trait", "true", "try",
    "type", "typeof", "unsafe", "unsized", "use", "virtual", "where", "while", "yield"]

def isKeyword (word : String) : Bool :=
  keywords.contains word

/-- `gen` is a keyword of the newest edition only, and still reads as an identifier. -/
def refusedKeyword (word : String) : Bool :=
  isKeyword word && word != "gen"

def startsIdentifier (c : Char) : Bool :=
  c.isAlpha || c == '_' || 0x80 ≤ c.toNat

def continuesIdentifier (c : Char) : Bool :=
  startsIdentifier c || c.isDigit

def spellsIdentifier (word : String) : Bool :=
  match word.toList with
  | [] => false
  | c :: s => startsIdentifier c && s.all continuesIdentifier

end ServiceClient.Code
