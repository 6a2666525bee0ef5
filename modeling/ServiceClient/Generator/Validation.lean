import ServiceClient.Generator.Context

/-! What a service must satisfy before code is generated for it, in the order in which it is
checked: members outside the body are primitive and map keys ordered; no structure holds itself by
value; generated types, fields, wire names and methods are distinct; and every codec that generated
code calls is generated. -/

namespace ServiceClient.Generator
open ServiceClient.Schema

/-- Goes through names with their owners and stops at the first that repeats an earlier one.
`owners` holds the names so far. -/
def claimNames (collision : (first second name : String) → Error)
    (owners : List (String × String)) :
    List (Except Error String × String) → Except Error Unit
  | [] => .ok ()
  | (name, owner) :: rest => do
    let name ← name
    match owners.lookup name with
    | some first => .error (collision first owner name)
    | none => claimNames collision ((name, owner) :: owners) rest

namespace Context
variable (ctx : Context)

def checkLocations (shape : Shape) (s : Structure) : Except Error Unit :=
  s.members.forM fun (name, m) =>
    if m.location == .payload then .ok ()
    else do
      let target ← ctx.shape m.shape
      if target.primitive?.isSome then .ok ()
      else .error (.unsupportedLocation shape.name name m.location.word target.name)

def checkMapKey (shape : Shape) (key : Member) : Except Error Unit := do
  let target ← ctx.shape key.shape
  if target.primitive?.any (·.isOrderable) then .ok ()
  else .error (.invalidMapKey shape.name key.shape)

def checkShape (shape : Shape) : Except Error Unit :=
  match shape.kind with
  | .struct s => ctx.checkLocations shape s
  | .map key _ => ctx.checkMapKey shape key
  | _ => .ok ()

/-- Follows members that hold a structure by value from the structure `name`, which `path` leads to,
newest first. Yields the structures known to lie on no cycle. -/
def visit (service : Service) :
    (depth : Nat) → (path finished : List String) → (name : String) → Except Error (List String)
  | 0, _, finished, _ => .ok finished
  | depth + 1, path, finished, name =>
    if finished.contains name then .ok finished
    else if path.contains name then
      .error (.recursiveShape name (name :: (path.takeWhile (· != name)).reverse ++ [name]))
    else
      match (service.shape? name).bind Shape.structure? with
      | none => .ok finished
      | some s => do
        let finished ← s.members.foldlM
          (fun finished (_, m) => visit service depth (name :: path) finished m.shape) finished
        .ok (name :: finished)

/-- No path without repetition is longer than the shapes are many. -/
def checkRecursion (service : Service) : Except Error Unit := do
  let structures := service.shapes.filter (·.structure?.isSome)
  let _ ← structures.foldlM
    (fun finished s => visit service (service.shapes.length + 1) [] finished s.name) []
  .ok ()

/-- The item names that a shape makes. -/
def itemNames (shape : Shape) : List (Except Error String × String) :=
  let own := fun make : Except Error String => [(make, shape.name)]
  (if isNativeString shape then [] else own (ctx.names.typeName shape.name)) ++
    (if ctx.hasEncoder shape.name then own (ctx.names.encoderName shape.name) else []) ++
    if ctx.hasDecoder shape.name then own (ctx.names.decoderName shape.name) else []

def checkTypeNames : Except Error Unit :=
  claimNames .nameCollision []
    (ctx.service.shapes.flatMap ctx.itemNames ++ [(.ok ctx.names.clientName, "(client)")])

/-- Field and wire names within a structure; headers have wire names of their own kind. -/
def checkMembers (shape : String) :
    (fields wires : List (String × String)) → List (String × Member) → Except Error Unit
  | _, _, [] => .ok ()
  | fields, wires, (name, m) :: rest => do
    let field ← ctx.names.snakeName name
    match fields.lookup field with
    | some first => .error (.fieldCollision shape first name field)
    | none =>
      let fields := (field, name) :: fields
      if m.location == .header then checkMembers shape fields wires rest
      else
        let wire ← ctx.wireName name m
        match wires.lookup wire with
        | some first => .error (.wireNameCollision shape first name wire)
        | none => checkMembers shape fields ((wire, name) :: wires) rest

/-- The shapes whose encoders an encoder calls, each with its place. -/
def encoderDependencies (shape : Shape) : Except Error (List (String × String)) :=
  match shape.kind with
  | .struct s => do
    let plans ← ctx.memberPlans s
    let nested := plans.filter fun p => p.member.location == .payload && !ctx.isRawPayload s p
    .ok (nested.map fun p => (p.name, p.member.shape))
  | _ => .ok (shape.parts.map fun (part, m) => (part, m.shape))

end Context

/-- The shapes whose decoders a decoder calls, each with its place. -/
def decoderDependencies (shape : Shape) : List (String × String) :=
  let read : List (String × Member) :=
    match shape.kind with
    | .struct s => s.members.filter (·.2.location != .header)
    | _ => shape.parts
  read.map fun (part, m) => (part, m.shape)

namespace Context
variable (ctx : Context)

def needCodec (codec : Codec) (owner referenced : String) : Except Error Unit :=
  let generated :=
    match codec with
    | .encoder => ctx.hasEncoder referenced
    | .decoder => ctx.hasDecoder referenced
  if generated then .ok () else .error (.missingCodec owner referenced codec)

def checkShapeCodecs (shape : Shape) : Except Error Unit := do
  if ctx.hasEncoder shape.name then
    (← ctx.encoderDependencies shape).forM fun (part, referenced) =>
      ctx.needCodec .encoder s!"{shape.name}.{part}" referenced
  if ctx.hasDecoder shape.name then
    (decoderDependencies shape).forM fun (part, referenced) =>
      ctx.needCodec .decoder s!"{shape.name}.{part}" referenced

def checkOperationCodecs (o : Operation) : Except Error Unit := do
  let owner := s!"operation {o.name}"
  o.input.forM (ctx.needCodec .encoder owner)
  o.output.forM (ctx.needCodec .decoder owner)

def checkCodecs : Except Error Unit := do
  ctx.service.shapes.forM ctx.checkShapeCodecs
  ctx.service.operations.forM ctx.checkOperationCodecs

end Context

/-- Methods that every client has. -/
def clientMethods : List String :=
  ["new", "region"]

namespace Context
variable (ctx : Context)

def checkMethods : Except Error Unit :=
  claimNames .methodCollision (clientMethods.map (·, "(client)"))
    (ctx.service.operations.map fun o => (ctx.names.snakeName o.name, o.name))

/-- The first fault that keeps code from being generated. -/
def validate : Except Error Unit := do
  ctx.service.shapes.forM ctx.checkShape
  checkRecursion ctx.service
  ctx.checkTypeNames
  ctx.service.shapes.forM fun shape =>
    match shape.kind with
    | .struct s => ctx.checkMembers shape.name [] [] s.members
    | _ => .ok ()
  ctx.checkCodecs
  ctx.checkMethods

end Context
end ServiceClient.Generator
