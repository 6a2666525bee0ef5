import ServiceClient.Code.Tree
import ServiceClient.Text.Quoted

/-! Generated code as tokens. The token text separates tokens by single spaces; an operator of
several characters is one token. -/

namespace ServiceClient.Code

inductive Token where
  | word (s : String)
  | mark (s : String)
  | literal (s : String)
  deriving DecidableEq

namespace Token

def text : Token → String
  | word s | mark s | literal s => s

def render (tokens : List Token) : String :=
  String.intercalate " " (tokens.map text)

end Token

open Token

def paren (inner : List Token) : List Token :=
  mark "(" :: inner ++ [mark ")"]

def brace (inner : List Token) : List Token :=
  mark "\x7b" :: inner ++ [mark "\x7d"]

def separated (separator : Token) : List (List Token) → List Token
  | [] => []
  | [t] => t
  | t :: rest => t ++ separator :: separated separator rest

def pathTokens (segments : List String) : List Token :=
  separated (mark "::") (segments.map ([word ·]))

def refTokens (mutable : Bool) (target : List Token) : List Token :=
  if mutable then mark "&" :: word "mut" :: target else mark "&" :: target

mutual

def Ty.tokens : Ty → List Token
  | .name n => [word n]
  | .app n args => word n :: mark "<" :: separated (mark ",") (Ty.listTokens args) ++ [mark ">"]
  | .ref mutable target => refTokens mutable target.tokens
  | .staticRef target => mark "&" :: mark "'static" :: target.tokens
  | .into target => word "impl" :: word "Into" :: mark "<" :: target.tokens ++ [mark ">"]
  | .unit => [mark "(", mark ")"]

def Ty.listTokens : List Ty → List (List Token)
  | [] => []
  | t :: rest => t.tokens :: Ty.listTokens rest

end

mutual

def Pattern.tokens : Pattern → List Token
  | .bind n => [word n]
  | .text s => [literal (Text.literal s)]
  | .range low high => [literal (toString low), mark "..=", literal (toString high)]
  | .wild => [word "_"]
  | .tuple elements => paren (separated (mark ",") (Pattern.listTokens elements))
  | .wrap n inner => word n :: paren inner.tokens

def Pattern.listTokens : List Pattern → List (List Token)
  | [] => []
  | p :: rest => p.tokens :: Pattern.listTokens rest

end

mutual

def Expr.tokens : Expr → List Token
  | .path segments => pathTokens segments
  | .scalarFn type n =>
    [mark "<", word type, word "as", word "Scalar", mark ">", mark "::", word n]
  | .text s => [literal (Text.literal s)]
  | .number n => [literal (toString n)]
  | .unit => [mark "(", mark ")"]
  | .call function args =>
    function.tokens ++ paren (separated (mark ",") (Expr.listTokens args))
  | .method receiver n args =>
    receiver.tokens ++ mark "." :: word n :: paren (separated (mark ",") (Expr.listTokens args))
  | .field e n => e.tokens ++ [mark ".", word n]
  | .ref mutable e => refTokens mutable e.tokens
  | .propagate e => e.tokens ++ [mark "?"]
  | .await e => e.tokens ++ [mark ".", word "await"]
  | .closure [] body => mark "||" :: body.tokens
  | .closure params body =>
    mark "|" :: separated (mark ",") (params.map ([word ·])) ++ mark "|" :: body.tokens
  | .struct n fields comma =>
    word n :: brace (separated (mark ",") (FieldValue.listTokens fields) ++
      if comma then [mark ","] else [])
  | .cases e arms => word "match" :: e.tokens ++ brace (Arm.listTokens arms)
  | .binary op left right => left.tokens ++ mark op :: right.tokens
  | .assign target value => target.tokens ++ mark "=" :: value.tokens
  | .breakLoop => [word "break"]
  | .continueLoop => [word "continue"]
  | .whileTrue condition body =>
    word "while" :: condition.tokens ++ brace (Stmt.listTokens body)
  | .forEach pattern values body =>
    word "for" :: pattern.tokens ++ word "in" :: values.tokens ++ brace (Stmt.listTokens body)
  | .loop body => word "loop" :: brace (Stmt.listTokens body)
  | .ifTrue condition body => word "if" :: condition.tokens ++ brace (Stmt.listTokens body)
  | .ifLet pattern e body =>
    word "if" :: word "let" :: pattern.tokens ++ mark "=" :: e.tokens ++
      brace (Stmt.listTokens body)
  | .block body => brace (Stmt.listTokens body)

def Expr.listTokens : List Expr → List (List Token)
  | [] => []
  | e :: rest => e.tokens :: Expr.listTokens rest

def FieldValue.tokens : FieldValue → List Token
  | .mk n (some e) => word n :: mark ":" :: e.tokens
  | .mk n none => [word n]

def FieldValue.listTokens : List FieldValue → List (List Token)
  | [] => []
  | f :: rest => f.tokens :: FieldValue.listTokens rest

def Arm.tokens : Arm → List Token
  | .mk pattern body comma =>
    pattern.tokens ++ mark "=>" :: body.tokens ++ if comma then [mark ","] else []

def Arm.listTokens : List Arm → List Token
  | [] => []
  | a :: rest => a.tokens ++ Arm.listTokens rest

def Stmt.tokens : Stmt → List Token
  | .bind mutable n type value =>
    word "let" :: (if mutable then [word "mut"] else []) ++ word n ::
      (type.map fun t => mark ":" :: t.tokens).getD [] ++ mark "=" :: value.tokens ++ [mark ";"]
  | .run e semicolon => e.tokens ++ if semicolon then [mark ";"] else []

def Stmt.listTokens : List Stmt → List Token
  | [] => []
  | s :: rest => s.tokens ++ Stmt.listTokens rest

end

/-- Whether the code mentions a word, other than in a text. -/
def Stmt.mentions (body : List Stmt) (name : String) : Bool :=
  (Stmt.listTokens body).contains (word name)

def docTokens (docs : List String) : List Token :=
  docs.flatMap fun line =>
    [mark "#", mark "[", word "doc", mark "=", literal (Text.literal line), mark "]"]

def deriveTokens (derives : List String) : List Token :=
  [mark "#", mark "[", word "derive"] ++
    paren (separated (mark ",") (derives.map ([word ·]))) ++ [mark "]"]

def Param.tokens : Param → List Token
  | .self => [mark "&", word "self"]
  | .typed n type => word n :: mark ":" :: type.tokens

def Function.tokens (f : Function) : List Token :=
  docTokens f.docs ++ word "pub" :: (if f.async then [word "async"] else []) ++
    word "fn" :: word f.name :: paren (separated (mark ",") (f.params.map Param.tokens)) ++
    (f.result.map fun t => mark "->" :: t.tokens).getD [] ++ brace (Stmt.listTokens f.body)

def ImplItem.tokens : ImplItem → List Token
  | .const n type value =>
    word "pub" :: word "const" :: word n :: mark ":" :: type.tokens ++
      mark "=" :: value.tokens ++ [mark ";"]
  | .function f => f.tokens

def Field.tokens (f : Field) : List Token :=
  docTokens f.docs ++ (if f.isPublic then [word "pub"] else []) ++
    word f.name :: mark ":" :: f.type.tokens

def Item.tokens : Item → List Token
  | .useAll path => word "use" :: pathTokens path ++ [mark "::", mark "*", mark ";"]
  | .unitStruct docs derives n =>
    docTokens docs ++ (if derives.isEmpty then [] else deriveTokens derives) ++
      [word "pub", word "struct", word n, mark ";"]
  | .struct docs derives n param fields comma =>
    docTokens docs ++ deriveTokens derives ++ word "pub" :: word "struct" :: word n ::
      (param.map fun p => [mark "<", word p, mark ">"]).getD [] ++
      brace (separated (mark ",") (fields.map Field.tokens) ++ if comma then [mark ","] else [])
  | .alias docs n target =>
    docTokens docs ++ word "pub" :: word "type" :: word n :: mark "=" :: target.tokens ++ [mark ";"]
  | .impl bound type items =>
    word "impl" :: (bound.map fun (p, b) => [mark "<", word p, mark ":", word b, mark ">"]).getD []
      ++ type.tokens ++ brace (items.flatMap ImplItem.tokens)

end ServiceClient.Code
