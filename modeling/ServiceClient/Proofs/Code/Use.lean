import ServiceClient.Code.Tree
import Mathlib.Data.List.Basic

/-! The names that items of generated code declare, and the names that they use: in types, and in
calls of the functions of encoders and decoders, however deep in the code. -/

namespace ServiceClient.Code

inductive Use where
  | type (name : String)
  /-- A function that belongs to an encoder or decoder. -/
  | codec (name function : String)
  deriving DecidableEq

def codecFunctions : List String :=
  ["encode", "decode"]

mutual

def Ty.uses : Ty → List Use
  | .name n => [.type n]
  | .app n args => .type n :: Ty.listUses args
  | .ref _ target | .staticRef target | .into target => target.uses
  | .unit => []

def Ty.listUses : List Ty → List Use
  | [] => []
  | t :: rest => t.uses ++ Ty.listUses rest

end

def pathUses : List String → List Use
  | [owner, function] => if codecFunctions.contains function then [.codec owner function] else []
  | _ => []

mutual

def Expr.uses : Expr → List Use
  | .path segments => pathUses segments
  | .scalarFn type _ => [.type type]
  | .text _ | .number _ | .unit | .breakLoop | .continueLoop => []
  | .call function args => function.uses ++ Expr.listUses args
  | .method receiver _ args => receiver.uses ++ Expr.listUses args
  | .field e _ | .ref _ e | .propagate e | .await e | .closure _ e => e.uses
  | .struct _ fields _ => FieldValue.listUses fields
  | .cases e arms => e.uses ++ Arm.listUses arms
  | .binary _ left right => left.uses ++ right.uses
  | .assign target value => target.uses ++ value.uses
  | .whileTrue condition body | .ifTrue condition body => condition.uses ++ Stmt.listUses body
  | .forEach _ values body => values.uses ++ Stmt.listUses body
  | .ifLet _ e body => e.uses ++ Stmt.listUses body
  | .loop body | .block body => Stmt.listUses body

def Expr.listUses : List Expr → List Use
  | [] => []
  | e :: rest => e.uses ++ Expr.listUses rest

def FieldValue.listUses : List FieldValue → List Use
  | [] => []
  | .mk _ none :: rest => FieldValue.listUses rest
  | .mk _ (some e) :: rest => e.uses ++ FieldValue.listUses rest

def Arm.listUses : List Arm → List Use
  | [] => []
  | .mk _ body _ :: rest => body.uses ++ Arm.listUses rest

def Stmt.listUses : List Stmt → List Use
  | [] => []
  | .bind _ _ none value :: rest => value.uses ++ Stmt.listUses rest
  | .bind _ _ (some type) value :: rest => type.uses ++ value.uses ++ Stmt.listUses rest
  | .run e _ :: rest => e.uses ++ Stmt.listUses rest

end

def Param.uses : Param → List Use
  | .self => []
  | .typed _ type => type.uses

def Function.uses (f : Function) : List Use :=
  f.params.flatMap Param.uses ++ (f.result.map Ty.uses).getD [] ++ Stmt.listUses f.body

def ImplItem.uses : ImplItem → List Use
  | .const _ type value => type.uses ++ value.uses
  | .function f => f.uses

/-- What an item uses apart from the type that it implements functions for. -/
def Item.uses : Item → List Use
  | .useAll _ | .unitStruct .. => []
  | .struct _ _ _ _ fields _ => fields.flatMap fun f => f.type.uses
  | .alias _ _ target => target.uses
  | .impl _ _ items => items.flatMap ImplItem.uses

def Item.declared? : Item → Option String
  | .unitStruct _ _ n | .struct _ _ n _ _ _ | .alias _ n _ => some n
  | .useAll _ | .impl .. => none

attribute [simp] Ty.uses Ty.listUses Expr.uses Expr.listUses FieldValue.listUses Arm.listUses
  Stmt.listUses Function.uses ImplItem.uses Item.uses

@[simp] theorem Expr.var_uses (name : String) : (Expr.var name).uses = [] := rfl

theorem FieldValue.listUses_append (xs ys : List FieldValue) :
    FieldValue.listUses (xs ++ ys) = FieldValue.listUses xs ++ FieldValue.listUses ys := by
  induction xs with
  | nil => rfl
  | cons f xs ih =>
    obtain ⟨_, _ | e⟩ := f <;>
      simp only [List.cons_append, FieldValue.listUses, ih, List.append_assoc]

theorem Arm.listUses_append (xs ys : List Arm) :
    Arm.listUses (xs ++ ys) = Arm.listUses xs ++ Arm.listUses ys := by
  induction xs with
  | nil => rfl
  | cons a xs ih =>
    obtain ⟨_, body, _⟩ := a
    simp only [List.cons_append, Arm.listUses, ih, List.append_assoc]

theorem Stmt.listUses_append (xs ys : List Stmt) :
    Stmt.listUses (xs ++ ys) = Stmt.listUses xs ++ Stmt.listUses ys := by
  induction xs with
  | nil => rfl
  | cons s xs ih =>
    obtain ⟨_, _, _ | type, value⟩ | ⟨e, _⟩ := s <;>
      simp only [List.cons_append, Stmt.listUses, ih, List.append_assoc]

/-- The uses of statements that are made one by one. -/
theorem Stmt.listUses_map {α : Type} (f : α → Stmt) (xs : List α) :
    Stmt.listUses (xs.map f) = xs.flatMap fun x => Stmt.listUses [f x] := by
  induction xs with
  | nil => rfl
  | cons x xs ih =>
    rw [List.map_cons, ← List.singleton_append, Stmt.listUses_append, ih, List.flatMap_cons]

theorem Arm.listUses_map {α : Type} (f : α → Arm) (xs : List α) :
    Arm.listUses (xs.map f) = xs.flatMap fun x => Arm.listUses [f x] := by
  induction xs with
  | nil => rfl
  | cons x xs ih =>
    rw [List.map_cons, ← List.singleton_append, Arm.listUses_append, ih, List.flatMap_cons]

theorem FieldValue.listUses_map {α : Type} (f : α → FieldValue) (xs : List α) :
    FieldValue.listUses (xs.map f) = xs.flatMap fun x => FieldValue.listUses [f x] := by
  induction xs with
  | nil => rfl
  | cons x xs ih =>
    rw [List.map_cons, ← List.singleton_append, FieldValue.listUses_append, ih, List.flatMap_cons]

end ServiceClient.Code
