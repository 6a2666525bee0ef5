import ServiceClient.Proofs.Code.Use

/-! What generated code defines: items, the fields and functions of a type, the variables of a
function, and the texts that its matches tell apart, however deep in the code. -/

namespace ServiceClient.Code

def Item.fieldNames : Item → List String
  | .struct _ _ _ _ fields _ => fields.map (·.name)
  | _ => []

def ImplItem.function? : ImplItem → Option Function
  | .function f => some f
  | .const .. => none

def Item.functions : Item → List Function
  | .impl _ _ items => items.filterMap ImplItem.function?
  | _ => []

def Stmt.bound? : Stmt → Option String
  | .bind _ n _ _ => some n
  | .run .. => none

/-- The variables that the whole body of a function sees. -/
def Function.locals (f : Function) : List String :=
  f.body.filterMap Stmt.bound?

def Pattern.text? : Pattern → Option String
  | .text s => some s
  | _ => none

mutual

/-- The texts that the arms of matches are chosen by. -/
def Expr.armTexts : Expr → List String
  | .path _ | .scalarFn .. | .text _ | .number _ | .unit | .breakLoop | .continueLoop => []
  | .call function args => function.armTexts ++ Expr.listArmTexts args
  | .method receiver _ args => receiver.armTexts ++ Expr.listArmTexts args
  | .field e _ | .ref _ e | .propagate e | .await e | .closure _ e => e.armTexts
  | .struct _ fields _ => FieldValue.listArmTexts fields
  | .cases e arms => e.armTexts ++ Arm.listArmTexts arms
  | .binary _ left right => left.armTexts ++ right.armTexts
  | .assign target value => target.armTexts ++ value.armTexts
  | .whileTrue condition body | .ifTrue condition body =>
    condition.armTexts ++ Stmt.listArmTexts body
  | .forEach _ values body => values.armTexts ++ Stmt.listArmTexts body
  | .ifLet _ e body => e.armTexts ++ Stmt.listArmTexts body
  | .loop body | .block body => Stmt.listArmTexts body

def Expr.listArmTexts : List Expr → List String
  | [] => []
  | e :: rest => e.armTexts ++ Expr.listArmTexts rest

def FieldValue.listArmTexts : List FieldValue → List String
  | [] => []
  | .mk _ none :: rest => FieldValue.listArmTexts rest
  | .mk _ (some e) :: rest => e.armTexts ++ FieldValue.listArmTexts rest

def Arm.listArmTexts : List Arm → List String
  | [] => []
  | .mk pattern body _ :: rest => pattern.text?.toList ++ body.armTexts ++ Arm.listArmTexts rest

def Stmt.listArmTexts : List Stmt → List String
  | [] => []
  | .bind _ _ _ value :: rest => value.armTexts ++ Stmt.listArmTexts rest
  | .run e _ :: rest => e.armTexts ++ Stmt.listArmTexts rest

end

def Function.armTexts (f : Function) : List String :=
  Stmt.listArmTexts f.body

/-- No two fields or functions of the item have the same name, and none of its functions has two
variables of one name or two arms for one text. -/
structure Item.DefinesOnce (item : Item) : Prop where
  fields : item.fieldNames.Nodup
  functions : (item.functions.map (·.name)).Nodup
  locals : ∀ f ∈ item.functions, f.locals.Nodup
  arms : ∀ f ∈ item.functions, f.armTexts.Nodup

/-- No two items have the same name, and each of them defines its parts once. -/
structure DefinesOnce (items : List Item) : Prop where
  names : (items.filterMap Item.declared?).Nodup
  each : ∀ item ∈ items, item.DefinesOnce

attribute [simp] Pattern.text? Expr.armTexts Expr.listArmTexts FieldValue.listArmTexts
  Arm.listArmTexts Stmt.listArmTexts

@[simp] theorem Stmt.bind_bound (mutable : Bool) (name : String) (type : Option Ty) (value : Expr) :
    (Stmt.bind mutable name type value).bound? = some name := rfl

@[simp] theorem Stmt.run_bound (e : Expr) (semicolon : Bool) :
    (Stmt.run e semicolon).bound? = none := rfl

@[simp] theorem Expr.var_armTexts (name : String) : (Expr.var name).armTexts = [] := by
  simp [Expr.var]

theorem Arm.listArmTexts_append (xs ys : List Arm) :
    Arm.listArmTexts (xs ++ ys) = Arm.listArmTexts xs ++ Arm.listArmTexts ys := by
  induction xs with
  | nil => simp
  | cons a xs ih =>
    obtain ⟨pattern, body, _⟩ := a
    simp only [List.cons_append, Arm.listArmTexts, ih, List.append_assoc]

theorem Stmt.listArmTexts_append (xs ys : List Stmt) :
    Stmt.listArmTexts (xs ++ ys) = Stmt.listArmTexts xs ++ Stmt.listArmTexts ys := by
  induction xs with
  | nil => simp
  | cons s xs ih =>
    cases s <;> simp only [List.cons_append, Stmt.listArmTexts, ih, List.append_assoc]

theorem Arm.listArmTexts_map {α : Type} (f : α → Arm) (xs : List α) :
    Arm.listArmTexts (xs.map f) = xs.flatMap fun x => Arm.listArmTexts [f x] := by
  induction xs with
  | nil => simp
  | cons x xs ih =>
    rw [List.map_cons, ← List.singleton_append, Arm.listArmTexts_append, ih, List.flatMap_cons]

theorem Stmt.listArmTexts_map {α : Type} (f : α → Stmt) (xs : List α) :
    Stmt.listArmTexts (xs.map f) = xs.flatMap fun x => Stmt.listArmTexts [f x] := by
  induction xs with
  | nil => simp
  | cons x xs ih =>
    rw [List.map_cons, ← List.singleton_append, Stmt.listArmTexts_append, ih, List.flatMap_cons]

theorem FieldValue.listArmTexts_eq_nil {fields : List FieldValue}
    (plain : ∀ f ∈ fields, FieldValue.listArmTexts [f] = []) :
    FieldValue.listArmTexts fields = [] := by
  induction fields with
  | nil => simp
  | cons f fields ih =>
    obtain ⟨first, rest⟩ := List.forall_mem_cons.mp plain
    obtain ⟨_, _ | e⟩ := f <;> simp_all

end ServiceClient.Code
