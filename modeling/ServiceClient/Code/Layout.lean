import ServiceClient.Code.Box
import ServiceClient.Code.Tree
import ServiceClient.Text.Lines
import ServiceClient.Text.Quoted

/-! The printed form of generated code: four blanks of indentation and lines of at most 89 bytes
where they can be broken. -/

namespace ServiceClient.Code
open Box

mutual

def Ty.layout : Ty → List Piece
  | .name n => word n
  | .app n args => word n ++ listed "<" ">" 4 (Ty.listLayout args)
  | .ref mutable target => word (if mutable then "&mut " else "&") ++ target.layout
  | .staticRef target => word "&'static " ++ target.layout
  | .into target => word "impl Into" ++ listed "<" ">" 4 [target.layout]
  | .unit => word "()"

def Ty.listLayout : List Ty → List (List Piece)
  | [] => []
  | t :: rest => t.layout :: Ty.listLayout rest

end

mutual

def Pattern.layout : Pattern → List Piece
  | .bind n => word n
  | .text s => word (Text.literal s)
  | .range low high => word s!"{low}..={high}"
  | .wild => word "_"
  | .tuple elements => listed "(" ")" 4 (Pattern.listLayout elements)
  | .wrap n inner => word n ++ listed "(" ")" 4 [inner.layout]

def Pattern.listLayout : List Pattern → List (List Piece)
  | [] => []
  | p :: rest => p.layout :: Pattern.listLayout rest

end

namespace Expr

/-- A name of at most four characters, which stays with the call behind it at the start of a
line. -/
def isShortName : Expr → Bool
  | path [n] => n.utf8ByteSize ≤ 4
  | _ => false

/-- Stands as a call's only argument without a line of its own. -/
def isBlockLike : Expr → Bool
  | closure .. | struct .. | block _ | unit => true
  | _ => false

/-- A condition of this form may end its line before the brace behind it. -/
def mayWrap : Expr → Bool
  | assign .. | await _ | binary .. | field .. | method .. => true
  | call f _ => mayWrap f
  | propagate e | ref _ e => mayWrap e
  | _ => false

/-- Needs a semicolon as a statement by itself. -/
def needsSemicolon : Expr → Bool
  | assign .. | breakLoop | continueLoop => true
  | _ => false

/-- Takes no semicolon as a statement. -/
def dropsSemicolon : Expr → Bool
  | whileTrue .. | forEach .. | ifTrue .. | ifLet .. => true
  | _ => false

end Expr

def statements (body : List Piece) : List Piece :=
  noLineEnd ++ tall 4 (dedent (lineEndIfMore ++ body)) ++ word "\x7d"

def condition (e : Expr) (layout : List Piece) : List Piece :=
  tall 0 (layout ++ if e.mayWrap then blankGap else word " ")

/-- The gap before a step of a chain, which a short name at the start of a line does without. -/
def chainGap (first : Bool) (receiver : Expr) : List Piece :=
  if first && receiver.isShortName then [] else emptyGap

/-- An expression that is no chain: inside one it is moved back to the chain's start. -/
def chainHead (inside : Bool) (layout : List Piece) : List Piece :=
  if inside then tall (-4) layout else layout

def chainLink (inside : Bool) (layout : List Piece) : List Piece :=
  if inside then layout else tall 4 layout

def conditional (layout : List Piece) (body : List Piece) : List Piece :=
  tall 4 (word "if " ++ tall (-4) layout ++ word "\x7b" ++ dedent (lineEnd ++ body) ++ word "\x7d")

def armBody (semicolon : Bool) (body : List Piece) : List Piece :=
  noLineEnd ++
    tall 4
      (.gap { blank := 0, before := "\x7b" } :: body ++
        [.gap { blank := 0, offset := -4, before := if semicolon then ";" else "",
                after := "\x7d", inside := "," }])

mutual

/-- `first` says that the expression starts a line, `inside` that a chain goes on behind it. -/
def Expr.layout (first inside : Bool) : Expr → List Piece
  | .path segments => chainHead inside (word (String.intercalate "::" segments))
  | .scalarFn type n => chainHead inside (word s!"<{type} as Scalar>::{n}")
  | .text s => chainHead inside (word (Text.literal s))
  | .number n => chainHead inside (word (toString n))
  | .unit => chainHead inside (word "()")
  | .call function args =>
    function.layout (first && !inside) inside ++ Expr.arguments args
  | .method receiver n args =>
    chainLink inside
      (receiver.layout first true ++ chainGap first receiver ++ word ("." ++ n) ++
        tall (if !inside && first && receiver.isShortName then -4 else 0) (Expr.arguments args))
  | .field e n =>
    chainLink inside (e.layout first true ++ chainGap first e ++ word ("." ++ n))
  | .ref mutable e =>
    chainHead inside (word (if mutable then "&mut " else "&") ++ e.layout false false)
  | .propagate e => e.layout first inside ++ word "?"
  | .await e => chainLink inside (e.layout first true ++ chainGap first e ++ word ".await")
  | .closure params body =>
    let head :=
      tall 4
        (dedent
          (word "|" ++
            (if params.isEmpty then []
             else emptyGap ++ word (String.intercalate ", " params)) ++
            word "|" ++ blankGap))
    chainHead inside (head ++ noLineEnd ++ body.layout false false)
  | .struct n fields _ =>
    chainHead inside
      (tallWithin 34 4
          (dedent
            (word (n ++ " \x7b") ++ [.gap { blank := 1, ifMore := true }] ++
              commaSeparated 1 (FieldValue.listLayout fields))) ++
        word "\x7d")
  | .cases e arms =>
    chainHead inside
      (packed 0
        (word "match " ++ condition e (e.layout false false) ++ word "\x7b" ++
          statements (Arm.listLayout arms)))
  | .binary op left right =>
    chainHead inside
      (packed 4
        (packed (-4) (left.layout false false) ++ blankGap ++ word (op ++ " ") ++
          right.layout false false))
  | .assign target value =>
    chainHead inside
      (packed 0
        (target.layout false false ++ word " = " ++ noLineEnd ++ value.layout false false))
  | .breakLoop => chainHead inside (word "break")
  | .continueLoop => chainHead inside (word "continue")
  | .whileTrue e body =>
    chainHead inside
      (word "while " ++ condition e (e.layout false false) ++ word "\x7b" ++
        statements (Stmt.listLayout body))
  | .forEach pattern values body =>
    chainHead inside
      (packed 0
        (word "for " ++ pattern.layout ++ word " in " ++ noLineEnd ++
          condition values (values.layout false false) ++ word "\x7b" ++
          statements (Stmt.listLayout body)))
  | .loop body =>
    chainHead inside
      (word "loop \x7b" ++ tall 4 (dedent (lineEndIfMore ++ Stmt.listLayout body)) ++ word "\x7d")
  | .ifTrue e body =>
    chainHead inside
      (conditional (condition e (e.layout false false)) (Stmt.listLayout body))
  | .ifLet pattern e body =>
    chainHead inside
      (conditional
        (condition e
          (word "let " ++ pattern.layout ++ word " = " ++ noLineEnd ++ e.layout false false))
        (Stmt.listLayout body))
  | .block body =>
    chainHead inside
      (tall 4
        (word "\x7b" ++ (if body.isEmpty then [] else dedent (blankGap ++ Stmt.listLayout body)) ++
          word "\x7d"))

def Expr.arguments : List Expr → List Piece
  | [e] =>
    if e.isBlockLike then word "(" ++ e.layout false false ++ word ")"
    else listed "(" ")" 4 [e.layout false false]
  | args => listed "(" ")" 4 (Expr.listLayout args)

def Expr.listLayout : List Expr → List (List Piece)
  | [] => []
  | e :: rest => e.layout false false :: Expr.listLayout rest

def FieldValue.listLayout : List FieldValue → List (List Piece)
  | [] => []
  | .mk n (some e) :: rest =>
    (word (n ++ ": ") ++ packed 0 (e.layout false false)) :: FieldValue.listLayout rest
  | .mk n none :: rest => word n :: FieldValue.listLayout rest

def Arm.listLayout : List Arm → List Piece
  | [] => []
  | .mk pattern (.block body) _ :: rest =>
    packed 0
        (pattern.layout ++ word " => " ++ word "\x7b" ++ statements (Stmt.listLayout body)) ++
      lineEnd ++ Arm.listLayout rest
  | .mk pattern body _ :: rest =>
    packed 0
        (pattern.layout ++ word " => " ++
          armBody body.needsSemicolon (body.layout true false)) ++
      lineEnd ++ Arm.listLayout rest

def Stmt.listLayout : List Stmt → List Piece
  | [] => []
  | .bind mutable n type value :: rest =>
    let head :=
      word ("let " ++ (if mutable then "mut " else "") ++ n) ++
        (type.map fun t => word ": " ++ t.layout).getD []
    packed 0 (head ++ word " = " ++ noLineEnd ++ value.layout false false ++ word ";") ++
      lineEnd ++ Stmt.listLayout rest
  | .run e semicolon :: rest =>
    let ends := if semicolon then !e.dropsSemicolon else e.needsSemicolon
    packed 0 (e.layout true false ++ if ends then word ";" else []) ++
      lineEnd ++ Stmt.listLayout rest

end

/-- Whether comment brackets inside the text pair up, so that it can stand in a block comment. -/
def bracketsPair (depth : Nat) : List Char → Bool
  | '/' :: '*' :: s => bracketsPair (depth + 1) s
  | '*' :: '/' :: s => depth != 0 && bracketsPair (depth - 1) s
  | _ :: s => bracketsPair depth s
  | [] => depth == 0

/-- The text with the blanks before its line feeds dropped. -/
def dropInnerBlanks (s : List Char) : List Char :=
  match (Text.linesOf s).reverse with
  | [] => []
  | last :: earlier =>
    (earlier.reverse.flatMap fun line => Text.dropTrailing ' ' line ++ ['\n']) ++ last

/-- A documentation line as a line comment; text of several lines as a block comment, or as an
attribute where that cannot be. -/
def docLayout (line : String) : List Piece :=
  let chars := line.toList
  let starts := fun c => chars.head? == some c
  if !chars.contains '\n' && !starts '/' then
    word "///" ++ word (String.ofList (Text.dropTrailing ' ' chars)) ++ lineEnd
  else if bracketsPair 0 chars && chars.getLast? != some '/' && !starts '*' && !starts '/' then
    word "/**" ++ word (String.ofList (dropInnerBlanks chars)) ++ word "*/" ++ lineEnd
  else word s!"#[doc = {Text.literal line}]" ++ lineEnd

def docsLayout (docs : List String) : List Piece :=
  docs.flatMap docLayout

def deriveLayout (derives : List String) : List Piece :=
  if derives.isEmpty then []
  else word ("#[derive(" ++ String.intercalate ", " derives ++ ")]") ++ lineEnd

def Param.layout : Param → List Piece
  | .self => word "&self"
  | .typed n type => word (n ++ ": ") ++ type.layout

def Function.layout (f : Function) : List Piece :=
  docsLayout f.docs ++
    tall 4
      (word ((if f.async then "pub async fn " else "pub fn ") ++ f.name) ++ word "(" ++ noLineEnd ++
        tall 0 (dedent (emptyGap ++ commaSeparated 0 (f.params.map Param.layout))) ++ word ")" ++
        tall (-4) ((f.result.map fun t => word " -> " ++ t.layout).getD []) ++
        word " \x7b" ++ dedent (lineEndIfMore ++ Stmt.listLayout f.body)) ++
    word "\x7d" ++ lineEnd

def ImplItem.layout : ImplItem → List Piece
  | .const n type value =>
    tall 0
        (word s!"pub const {n}: " ++ type.layout ++ word " = " ++ noLineEnd ++
          value.layout false false ++ word ";") ++
      lineEnd
  | .function f => f.layout

def Field.layout (f : Field) : List Piece :=
  docsLayout f.docs ++ word ((if f.isPublic then "pub " else "") ++ f.name ++ ": ") ++ f.type.layout

def Item.layout : Item → List Piece
  | .useAll path => word ("use " ++ String.intercalate "::" path ++ "::*;") ++ lineEnd
  | .unitStruct docs derives n =>
    docsLayout docs ++ deriveLayout derives ++ tall 4 (word s!"pub struct {n};") ++ lineEnd
  | .struct docs derives n param fields _ =>
    docsLayout docs ++ deriveLayout derives ++
      tall 4
        (word s!"pub struct {n}" ++
          (param.map fun p => listed "<" ">" 0 [word p]).getD [] ++ word " \x7b" ++
          dedent (lineEndIfMore ++ fields.flatMap fun f => f.layout ++ word "," ++ lineEnd)) ++
      word "\x7d" ++ lineEnd
  | .alias docs n target =>
    docsLayout docs ++
      tall 4
        (word s!"pub type {n} = " ++ noLineEnd ++ packed (-4) target.layout ++ word ";") ++
      lineEnd
  | .impl bound type items =>
    tall 4
        (word "impl" ++
          (bound.map fun (p, b) => listed "<" ">" 0 [word p ++ packed 4 (word (": " ++ b))]).getD []
          ++ word " " ++ type.layout ++ word " \x7b" ++
          dedent (lineEndIfMore ++ items.flatMap ImplItem.layout)) ++
      word "\x7d" ++ lineEnd

def layout (items : List Item) : String :=
  render (items.flatMap Item.layout)

end ServiceClient.Code
