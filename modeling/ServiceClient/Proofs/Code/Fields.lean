import ServiceClient.Proofs.Code.Binding
import ServiceClient.Proofs.Code.Nodes

/-! What the functions of a codec do with the fields of a type, however deep in the code: those that
an encoder reads, guards and writes, and those that a decoder makes a value from, with the variables
that it keeps them in and the names that it finds them under. -/

namespace ServiceClient.Code

/-- The name that a member travels under. -/
inductive WireName where
  | header (name : String)
  /-- Of a part of the body, or of the parameter below it. -/
  | part (name : String)
  deriving DecidableEq

/-! Encoders. -/

/-- What a part of an encoder does with a field of the value, `obj`. -/
inductive FieldWriting where
  | read (field : String)
  /-- Goes on only if there is something in the field. -/
  | guarded (field : String)
  | named (name : WireName)
  deriving DecidableEq

@[simp] def Node.writing : Node → List FieldWriting
  | .expr (.field (.path [of]) field) => if of = "obj" then [.read field] else []
  | .expr (.ifLet (.wrap wrapper _) (.ref _ (.field (.path [of]) field)) _) =>
    if wrapper = "Some" ∧ of = "obj" then [.guarded field] else []
  | .expr (.method _ function [.text name, _]) =>
    if function = "add_header" then [.named (.header name)] else []
  | .expr (.call (.path [function]) [_, .text name]) =>
    if function = "join_path" then [.named (.part name)] else []
  | _ => []

namespace FieldWriting

def read? : FieldWriting → Option String
  | .read field => some field
  | _ => none

def guarded? : FieldWriting → Option String
  | .guarded field => some field
  | _ => none

def named? : FieldWriting → Option WireName
  | .named name => some name
  | _ => none

end FieldWriting

def Stmt.listWritings (body : List Stmt) : List FieldWriting :=
  (Stmt.listNodes body).flatMap Node.writing

theorem Stmt.listWritings_map {α : Type} (f : α → Stmt) (xs : List α) :
    Stmt.listWritings (xs.map f) = xs.flatMap fun x => Stmt.listWritings [f x] := by
  simp only [listWritings, listNodes_map, List.flatMap_assoc]

def Function.fieldsRead (f : Function) : List String :=
  (Stmt.listWritings f.body).filterMap FieldWriting.read?

def Function.fieldsGuarded (f : Function) : List String :=
  (Stmt.listWritings f.body).filterMap FieldWriting.guarded?

def Function.namesWritten (f : Function) : List WireName :=
  (Stmt.listWritings f.body).filterMap FieldWriting.named?

/-- The fields that a statement reads, with the names that it writes. -/
def Stmt.fieldsWritten (s : Stmt) : List (String × WireName) :=
  let writings := Stmt.listWritings [s]
  (writings.filterMap FieldWriting.read?).flatMap fun field =>
    (writings.filterMap FieldWriting.named?).map (field, ·)

/-- The fields that an encoder writes, with their names. Each of its statements is for one field. -/
def Function.fieldsWritten (f : Function) : List (String × WireName) :=
  f.body.flatMap Stmt.fieldsWritten

/-! Decoders. -/

@[simp] def Node.variable? : Node → Option String
  | .expr (.path [name]) => some name
  | _ => none

/-- The variable that is given a value, or more of one. -/
@[simp] def Node.stored? : Node → Option String
  | .expr (.assign (.path [slot]) _) => some slot
  | .expr (.call (.path [function]) [.ref true (.path [slot]), _]) =>
    if function = "merge_into" then some slot else none
  | _ => none

@[simp] def Node.headerRead? : Node → Option String
  | .expr (.call (.path [function]) [_, .text name]) =>
    if function = "header_value" then some name else none
  | _ => none

/-- What a part of a decoder does with its variables. -/
inductive FieldReading where
  | declared (slot : String) (type : Option Ty)
  | found (slot : String) (name : WireName)
  | made (type : String) (values : List FieldValue)

@[simp] def Node.reading : Node → List FieldReading
  | .stmt (.bind _ slot type value) =>
    .declared slot type ::
      (value.nodes.filterMap Node.headerRead?).map (.found slot <| .header ·)
  | .arm (.mk (.text name) body _) =>
    (body.nodes.filterMap Node.stored?).map (.found · (.part name))
  | .expr (.struct type values _) => [.made type values]
  | _ => []

namespace FieldReading

def declared? : FieldReading → Option (String × Option Ty)
  | .declared slot type => some (slot, type)
  | _ => none

def found? : FieldReading → Option (String × WireName)
  | .found slot name => some (slot, name)
  | _ => none

def made? : FieldReading → Option (String × List FieldValue)
  | .made type values => some (type, values)
  | _ => none

end FieldReading

def Stmt.listReadings (body : List Stmt) : List FieldReading :=
  (Stmt.listNodes body).flatMap Node.reading

theorem Stmt.listReadings_append (xs ys : List Stmt) :
    Stmt.listReadings (xs ++ ys) = Stmt.listReadings xs ++ Stmt.listReadings ys := by
  simp only [listReadings, listNodes_append, List.flatMap_append]

theorem Stmt.listReadings_map {α : Type} (f : α → Stmt) (xs : List α) :
    Stmt.listReadings (xs.map f) = xs.flatMap fun x => Stmt.listReadings [f x] := by
  simp only [listReadings, listNodes_map, List.flatMap_assoc]

/-- The variables of a function with their types. -/
def Function.declared (f : Function) : List (String × Option Ty) :=
  (Stmt.listReadings f.body).filterMap FieldReading.declared?

/-- The variables that something from the wire is stored in, with the names that it has there. -/
def Function.found (f : Function) : List (String × WireName) :=
  (Stmt.listReadings f.body).filterMap FieldReading.found?

/-- The struct literals of a function. -/
def Function.made (f : Function) : List (String × List FieldValue) :=
  (Stmt.listReadings f.body).filterMap FieldReading.made?

/-- The values that a function gives to fields. -/
def Function.fieldValues (f : Function) : List FieldValue :=
  f.made.flatMap (·.2)

/-- What a function yields when all goes well. -/
def Function.yielded? (f : Function) : Option Expr :=
  match f.body.getLast? with
  | some (.run (.call (.path [wrapper]) [e]) _) => if wrapper = "Ok" then some e else none
  | _ => none

namespace FieldValue

def name : FieldValue → String
  | .mk name _ => name

/-- The variables that the value is made from. -/
def mentioned : FieldValue → List String
  | .mk name none => [name]
  | .mk _ (some e) => e.nodes.filterMap Node.variable?

/-- Whether the value is that of a variable as it stands. -/
def isVariable : FieldValue → Bool
  | .mk _ none | .mk _ (some (.path [_])) => true
  | _ => false

end FieldValue

/-- The fields that a decoder makes a value from, with the names that it found them under. -/
def Function.fieldsFound (f : Function) : List (String × WireName) :=
  f.fieldValues.flatMap fun value =>
    value.mentioned.flatMap fun slot =>
      (f.found.filter (·.1 == slot)).map fun source => (value.name, source.2)

/-- The names under which a decoder has others read parts of the body. -/
@[simp] def Node.decoded? : Node → Option String
  | .expr (.call (.path [_, function]) (.text name :: _)) =>
    if function = "decode" then some name else none
  | _ => none

def Function.namesDecoded (f : Function) : List String :=
  (Stmt.listNodes f.body).filterMap Node.decoded?

/-! Declarations. -/

namespace Ty

def isOptional : Ty → Bool
  | .app "Option" _ => true
  | _ => false

/-- The type of what an optional field holds, or any other field. -/
def held : Ty → Ty
  | .app "Option" [type] => type
  | type => type

end Ty

namespace Item

def isUnitStruct : Item → Bool
  | .unitStruct .. => true
  | _ => false

def fields : Item → List Field
  | .struct _ _ _ _ fields _ => fields
  | _ => []

def optionalFields (item : Item) : List String :=
  (item.fields.filter (·.type.isOptional)).map (·.name)

end Item

/-- The encoder reads the fields of the declared type in order, each once, and goes on with those
that are optional only if there is something in them. -/
structure WritesFields (item : Item) (encode : Function) : Prop where
  read : encode.fieldsRead = item.fieldNames
  guarded : encode.fieldsGuarded = item.optionalFields

/-- The decoder makes a value of the declared type from its fields in order, each once, out of
variables of their own. Those of optional fields are handed on as they stand. -/
structure MakesFields (type : String) (item : Item) (decode : Function) : Prop where
  unit : item.isUnitStruct ↔ decode.yielded? = some (.var type)
  literal : item.isUnitStruct = false → decode.made = [(type, decode.fieldValues)] ∧
    decode.yielded? = some (.struct type decode.fieldValues false)
  names : decode.fieldValues.map FieldValue.name = item.fieldNames
  slots : List.Forall₂ (fun field value => ∃ slot, value.mentioned = [slot] ∧
    decode.declared.filter (·.1 == slot) = [(slot, some (.app "Option" [field.type.held]))])
      item.fields decode.fieldValues
  apart : (decode.fieldValues.flatMap FieldValue.mentioned).Nodup
  handedOn : (decode.fieldValues.filter FieldValue.isVariable).map FieldValue.name =
    item.optionalFields
  found : decode.fieldsFound.map (·.1) = item.fieldNames

/-- The codecs of a declared type, as far as there are any, agree with the type and with each
other. -/
structure CodecsAgree (type : String) (item : Item) (encode decode : Option Function) : Prop where
  declared : item.declared? = some type
  distinct : item.fieldNames.Nodup
  encoder : ∀ e ∈ encode, WritesFields item e
  decoder : ∀ d ∈ decode, MakesFields type item d
  /-- What is written under a name is found under it. -/
  names : ∀ e ∈ encode, ∀ d ∈ decode, e.fieldsWritten.Sublist d.fieldsFound

end ServiceClient.Code
