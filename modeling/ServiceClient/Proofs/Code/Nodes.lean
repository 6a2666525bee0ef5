import ServiceClient.Code.Tree
import Mathlib.Data.List.Basic

/-! All parts of the code of a function, however deep, each before the parts that it consists of. -/

namespace ServiceClient.Code

/-- A part of a function's code. -/
inductive Node where
  | expr (e : Expr)
  | arm (a : Arm)
  | stmt (s : Stmt)

mutual

/-- The expression and all parts of it. -/
def Expr.nodes : Expr → List Node
  | .path segments => [.expr (.path segments)]
  | .scalarFn type name => [.expr (.scalarFn type name)]
  | .text s => [.expr (.text s)]
  | .number n => [.expr (.number n)]
  | .unit => [.expr .unit]
  | .breakLoop => [.expr .breakLoop]
  | .continueLoop => [.expr .continueLoop]
  | .call function args => .expr (.call function args) :: function.nodes ++ Expr.listNodes args
  | .method receiver name args =>
    .expr (.method receiver name args) :: receiver.nodes ++ Expr.listNodes args
  | .field e name => .expr (.field e name) :: e.nodes
  | .ref mutable e => .expr (.ref mutable e) :: e.nodes
  | .propagate e => .expr (.propagate e) :: e.nodes
  | .await e => .expr (.await e) :: e.nodes
  | .closure params e => .expr (.closure params e) :: e.nodes
  | .struct name fields comma =>
    .expr (.struct name fields comma) :: FieldValue.listNodes fields
  | .cases e arms => .expr (.cases e arms) :: e.nodes ++ Arm.listNodes arms
  | .binary op left right => .expr (.binary op left right) :: left.nodes ++ right.nodes
  | .assign target value => .expr (.assign target value) :: target.nodes ++ value.nodes
  | .whileTrue condition body =>
    .expr (.whileTrue condition body) :: condition.nodes ++ Stmt.listNodes body
  | .forEach pattern values body =>
    .expr (.forEach pattern values body) :: values.nodes ++ Stmt.listNodes body
  | .loop body => .expr (.loop body) :: Stmt.listNodes body
  | .ifTrue condition body =>
    .expr (.ifTrue condition body) :: condition.nodes ++ Stmt.listNodes body
  | .ifLet pattern e body => .expr (.ifLet pattern e body) :: e.nodes ++ Stmt.listNodes body
  | .block body => .expr (.block body) :: Stmt.listNodes body

def Expr.listNodes : List Expr → List Node
  | [] => []
  | e :: rest => e.nodes ++ Expr.listNodes rest

def FieldValue.listNodes : List FieldValue → List Node
  | [] => []
  | .mk _ none :: rest => FieldValue.listNodes rest
  | .mk _ (some e) :: rest => e.nodes ++ FieldValue.listNodes rest

def Arm.listNodes : List Arm → List Node
  | [] => []
  | .mk pattern body comma :: rest =>
    .arm (.mk pattern body comma) :: body.nodes ++ Arm.listNodes rest

def Stmt.listNodes : List Stmt → List Node
  | [] => []
  | .bind mutable name type value :: rest =>
    .stmt (.bind mutable name type value) :: value.nodes ++ Stmt.listNodes rest
  | .run e semicolon :: rest => .stmt (.run e semicolon) :: e.nodes ++ Stmt.listNodes rest

end

attribute [simp] Expr.nodes Expr.listNodes FieldValue.listNodes Arm.listNodes Stmt.listNodes

theorem Arm.listNodes_append (xs ys : List Arm) :
    Arm.listNodes (xs ++ ys) = Arm.listNodes xs ++ Arm.listNodes ys := by
  induction xs with
  | nil => simp
  | cons a xs ih =>
    obtain ⟨pattern, body, _⟩ := a
    simp only [List.cons_append, Arm.listNodes, ih, List.append_assoc]

theorem Stmt.listNodes_append (xs ys : List Stmt) :
    Stmt.listNodes (xs ++ ys) = Stmt.listNodes xs ++ Stmt.listNodes ys := by
  induction xs with
  | nil => simp
  | cons s xs ih =>
    cases s <;> simp only [List.cons_append, Stmt.listNodes, ih, List.append_assoc]

theorem Arm.listNodes_map {α : Type} (f : α → Arm) (xs : List α) :
    Arm.listNodes (xs.map f) = xs.flatMap fun x => Arm.listNodes [f x] := by
  induction xs with
  | nil => simp
  | cons x xs ih =>
    rw [List.map_cons, ← List.singleton_append, Arm.listNodes_append, ih, List.flatMap_cons]

theorem Stmt.listNodes_map {α : Type} (f : α → Stmt) (xs : List α) :
    Stmt.listNodes (xs.map f) = xs.flatMap fun x => Stmt.listNodes [f x] := by
  induction xs with
  | nil => simp
  | cons x xs ih =>
    rw [List.map_cons, ← List.singleton_append, Stmt.listNodes_append, ih, List.flatMap_cons]

theorem FieldValue.listNodes_map {α : Type} (name : α → String) (value : α → Expr) (xs : List α) :
    FieldValue.listNodes (xs.map fun x => .mk (name x) (some (value x))) =
      xs.flatMap fun x => (value x).nodes := by
  induction xs with
  | nil => simp
  | cons x xs ih => rw [List.map_cons, FieldValue.listNodes, ih, List.flatMap_cons]

end ServiceClient.Code
