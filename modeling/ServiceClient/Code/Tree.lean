/-! The Rust code that the generator writes, as a tree: the types, expressions, statements and items
that clients, encoders and decoders are made of. -/

namespace ServiceClient.Code

inductive Ty where
  | name (name : String)
  | app (name : String) (args : List Ty)
  | ref (mutable : Bool) (target : Ty)
  | staticRef (target : Ty)
  /-- Anything that converts into the given type. -/
  | into (target : Ty)
  | unit

inductive Pattern where
  | bind (name : String)
  | text (s : String)
  | range (low high : Nat)
  | wild
  | tuple (elements : List Pattern)
  | wrap (name : String) (inner : Pattern)

mutual

inductive Expr where
  | path (segments : List String)
  /-- A function that a type has as a scalar. -/
  | scalarFn (type name : String)
  | text (s : String)
  | number (n : Nat)
  | unit
  | call (function : Expr) (args : List Expr)
  | method (receiver : Expr) (name : String) (args : List Expr)
  | field (of : Expr) (name : String)
  | ref (mutable : Bool) (of : Expr)
  /-- Hands an error to the caller. -/
  | propagate (of : Expr)
  | await (of : Expr)
  | closure (params : List String) (body : Expr)
  /-- `comma` says whether one is written behind the last field. -/
  | struct (name : String) (fields : List FieldValue) (comma : Bool)
  | cases (of : Expr) (arms : List Arm)
  | binary (op : String) (left right : Expr)
  | assign (target value : Expr)
  | breakLoop
  | continueLoop
  | whileTrue (condition : Expr) (body : List Stmt)
  | forEach (pattern : Pattern) (values : Expr) (body : List Stmt)
  | loop (body : List Stmt)
  | ifTrue (condition : Expr) (body : List Stmt)
  | ifLet (pattern : Pattern) (of : Expr) (body : List Stmt)
  | block (body : List Stmt)

/-- A field of a struct literal; one whose value is not given takes that of the variable of its
name. -/
inductive FieldValue where
  | mk (name : String) (value : Option Expr)

/-- `comma` says whether one is written behind the body. -/
inductive Arm where
  | mk (pattern : Pattern) (body : Expr) (comma : Bool)

inductive Stmt where
  | bind (mutable : Bool) (name : String) (type : Option Ty) (value : Expr)
  /-- An expression as a statement, with or without a semicolon. -/
  | run (e : Expr) (semicolon : Bool)

end

inductive Param where
  | self
  | typed (name : String) (type : Ty)

structure Function where
  docs : List String
  async : Bool
  name : String
  params : List Param
  result : Option Ty
  body : List Stmt

inductive ImplItem where
  | const (name : String) (type : Ty) (value : Expr)
  | function (f : Function)

structure Field where
  docs : List String
  isPublic : Bool
  name : String
  type : Ty

inductive Item where
  /-- Brings every name of a module into scope. -/
  | useAll (path : List String)
  | unitStruct (docs derives : List String) (name : String)
  /-- `comma` says whether one is written behind the last field. -/
  | struct (docs derives : List String) (name : String) (param : Option String)
      (fields : List Field) (comma : Bool)
  | alias (docs : List String) (name : String) (target : Ty)
  | impl (bound : Option (String × String)) (type : Ty) (items : List ImplItem)

namespace Expr

def var (name : String) : Expr :=
  path [name]

end Expr
end ServiceClient.Code
