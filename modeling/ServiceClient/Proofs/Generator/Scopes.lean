import ServiceClient.Proofs.Data.SortedMap
import ServiceClient.Proofs.Generator.Closure
import ServiceClient.Proofs.Generator.EmittedNames
import ServiceClient.Proofs.Generator.ReservedNames
import ServiceClient.Proofs.Schema.Loading

/-! Scopes of type names. The client is generic in what sends its requests, and inside of it the
name of that parameter hides whatever the module declares under it. The checks compare the names of
the module with each other and not with the parameter, so that a shape may be hidden by it. -/

namespace ServiceClient.Code

/-- The type parameter that an item has. -/
def Item.param? : Item → Option String
  | .struct _ _ _ param _ _ => param
  | .impl bound _ _ => bound.map (·.1)
  | .useAll _ | .unitStruct .. | .alias .. => none

end ServiceClient.Code

namespace ServiceClient.Generator
open ServiceClient.Code ServiceClient.Codec ServiceClient.Schema ServiceClient.Sequence

/-- What the name of a type stands for. -/
inductive Meaning where
  | parameter
  | declared (part : Part)
  | outer (name : String)

/-- Names inside an item are looked for in the item first, then in the module, then outside. -/
def meaning (parts : List (Part × List Item)) (item : Item) (name : String) : Meaning :=
  if item.param? = some name then .parameter
  else
    match (declarations parts).lookup name with
    | some part => .declared part
    | none => .outer name

theorem lookup_of_declares {parts : List (Part × List Item)} {name : String} {part : Part}
    (declared : Declares parts name part) : (declarations parts).lookup name = some part := by
  rw [SortedMap.lookup_eq_head?_filter, show _ = [(name, part)] from declared]
  rfl

namespace Names
variable {n : Names} {shape type : String}

/-- Only a shape that is called like the parameter has its name, and keeps it unless that is
reserved. -/
theorem typeName_eq_parameter_iff (filled : n.serviceIdent ≠ "")
    (typed : n.typeName shape = .ok type) :
    type = "D" ↔ Text.pascalCase shape = "D" ∧ n.config.isReserved "D" = false := by
  obtain ⟨spelt, rfl⟩ := typeName_eq_ok typed
  cases native : n.isNative shape with
  | true =>
    obtain ⟨target, found, text⟩ := (Option.any_eq_true _ _).mp native
    have pascal : Text.pascalCase shape = "String" := by
      rw [← (Service.shape?_eq_some found).2]
      simp only [isNativeString, Bool.and_eq_true, beq_iff_eq] at text
      exact text.1
    simp [typeIdent, found, text, pascal]
  | false =>
    rw [typeIdent_of_not_native native]
    cases moved : n.isMoved shape with
    | true =>
      have put : n.serviceIdent ++ Text.pascalCase shape ≠ "D" :=
        append_pascalCase_ne filled spelt rfl
      simp only [if_true, put, false_iff, not_and, Bool.not_eq_false]
      intro same
      simpa [isMoved, same, Config.isReserved, startsWithDigit] using moved
    | false =>
      simp only [Bool.false_eq_true, if_false, iff_self_and]
      intro same
      simp only [isMoved, Bool.or_eq_false_iff, same] at moved
      exact moved.1.2

end Names

namespace Context
variable (ctx : Context) (m : Module)

/-- What a shape is in a module: the text type, or what is declared for it. -/
def shapeMeaning (shape : Shape) : Meaning :=
  if isNativeString shape then .outer "String" else .declared (.declaration shape)

/-- Inside the item, the name of a type stands for the shape. -/
def StandsFor (item : Item) (type name : String) : Prop :=
  ∃ shape, ctx.service.shape? name = some shape ∧
    meaning (parts ctx.service.shapes m) item type = shapeMeaning shape

/-- The types in the signature of a method stand for the shapes of its operation. -/
structure ResolvesSignature (item : Item) (o : Operation) (f : Function) : Prop where
  input : ∀ shape, o.input = some shape → ∃ type,
    f.params = [.self, .typed "input" (.ref false (.name type))] ∧ ctx.StandsFor m item type shape
  output : ∀ shape, o.output = some shape → ∃ type,
    f.result = some (.app "Result" [.name type, .name "OperationError"]) ∧
      ctx.StandsFor m item type shape

variable {ctx m}

namespace Checked

/-- No part of a module declares the text type. -/
theorem lookup_text (h : ctx.Checked) (planned : ctx.plan = .ok m)
    (filled : ctx.names.serviceIdent ≠ "")
    (single : ∀ shape ∈ ctx.service.shapes, ctx.service.shape? shape.name = some shape) :
    (declarations (parts ctx.service.shapes m)).lookup "String" = none := by
  have letters : ∀ {lead word : String}, lead ++ word = "String" →
      lead.length + word.length = 6 := by
    intro lead word same
    rw [← String.length_append, same]
    rfl
  obtain ⟨-, shaped, client, -⟩ := plan_eq_ok planned
  obtain ⟨-, zipped⟩ := List.forall₂_iff_zip.mp shaped
  suffices apart : ∀ d ∈ declarations (parts ctx.service.shapes m), d.1 ≠ "String" from
    List.lookup_eq_none_iff.mpr fun d mem => bne_iff_ne.mpr (apart d mem).symm
  rw [parts_declarations, List.forall_mem_append, List.forall_mem_flatMap,
    List.forall_mem_singleton]
  refine ⟨fun ⟨shape, s⟩ here d declared text => ?_, fun text => ?_⟩
  · have mem := (List.of_mem_zip here).1
    obtain ⟨type, typed⟩ := h.exists_ownType mem
    rw [shapeParts_declarations typed (zipped here), List.mem_append, List.mem_append] at declared
    rcases declared with (decoder | own) | encoder
    · obtain ⟨-, rfl⟩ : ctx.hasDecoder shape.name ∧
          d = (Emit.decoderName type, .decoder shape) := by simpa using decoder
      have tail : "Decoder".length = 7 := rfl
      have := letters text
      omega
    · obtain ⟨plain, rfl⟩ : isNativeString shape = false ∧ d = (type, .declaration shape) := by
        simpa using own
      refine Names.typeName_ne_text filled ?_ typed text
      rw [Names.isNative, h.names_service, single shape mem, Option.any_some, plain]
    · obtain ⟨-, rfl⟩ : ctx.hasEncoder shape.name ∧
          d = (Emit.encoderName type, .encoder shape) := by simpa using encoder
      have tail : "Encoder".length = 7 := rfl
      have := letters text
      omega
  · have tail : "Client".length = 6 := rfl
    have := letters (client ▸ text)
    exact filled (String.length_eq_zero_iff.mp (by omega))

/-- In an item, the name of a shape's type stands for the shape unless the item has a parameter of
that name. -/
theorem standsFor_iff (h : ctx.Checked) (planned : ctx.plan = .ok m)
    (filled : ctx.names.serviceIdent ≠ "")
    (single : ∀ shape ∈ ctx.service.shapes, ctx.service.shape? shape.name = some shape)
    {name type : String} {shape : Shape} (found : ctx.service.shape? name = some shape)
    (typed : ctx.names.typeName name = .ok type) (item : Item) :
    ctx.StandsFor m item type name ↔ item.param? ≠ some type := by
  obtain ⟨mem, rfl⟩ := Service.shape?_eq_some found
  constructor
  · rintro ⟨_, -, same⟩ captured
    rw [meaning, if_pos captured, shapeMeaning] at same
    split at same <;> cases same
  · intro free
    refine ⟨shape, found, ?_⟩
    rw [meaning, if_neg free, shapeMeaning]
    by_cases native : isNativeString shape
    · obtain rfl : type = "String" := Except.ok.inj
        (typed.symm.trans (Names.typeName_native (h.names_service ▸ found) native))
      rw [h.lookup_text planned filled single, if_pos native]
    · rw [lookup_of_declares (h.declares_type planned mem typed native), if_neg native]

/-- The parameter stands in the way of a shape of its name, unless no type may be called so. -/
theorem standsFor_iff_of_generic (h : ctx.Checked) (planned : ctx.plan = .ok m)
    (filled : ctx.names.serviceIdent ≠ "")
    (single : ∀ shape ∈ ctx.service.shapes, ctx.service.shape? shape.name = some shape)
    {item : Item} (generic : item.param? = some "D") {name type : String} {shape : Shape}
    (found : ctx.service.shape? name = some shape) (typed : ctx.names.typeName name = .ok type) :
    ctx.StandsFor m item type name ↔
      (Text.pascalCase name = "D" → ctx.names.config.isReserved "D") := by
  rw [h.standsFor_iff planned filled single found typed, generic, ne_eq, Option.some_inj, eq_comm,
    Names.typeName_eq_parameter_iff filled typed]
  simp

/-- A method resolves its signature unless one of its types is called like the parameter. -/
theorem resolvesSignature_iff (h : ctx.Checked) (planned : ctx.plan = .ok m)
    (filled : ctx.names.serviceIdent ≠ "")
    (single : ∀ shape ∈ ctx.service.shapes, ctx.service.shape? shape.name = some shape)
    {item : Item} (generic : item.param? = some "D") {o : Operation}
    (mem : o ∈ ctx.service.operations) {method : Method} (made : ctx.method o = .ok method) :
    ctx.ResolvesSignature m item o (Emit.method m.protocol method) ↔
      ∀ shape, o.input = some shape ∨ o.output = some shape → Text.pascalCase shape = "D" →
        ctx.names.config.isReserved "D" := by
  have input : ∀ {name}, o.input = some name → ∃ type shape,
      (Emit.method m.protocol method).params =
        [.self, .typed "input" (.ref false (.name type))] ∧
      ctx.service.shape? name = some shape ∧ ctx.names.typeName name = .ok type := by
    intro name taken
    obtain ⟨shape, found⟩ := Service.exists_shape_of_input h.references mem taken
    obtain ⟨type, own, typed⟩ := (method_eq_ok made).exists_input taken
    exact ⟨type, shape, by simp [Emit.method, own], found, typed⟩
  have output : ∀ {name}, o.output = some name → ∃ type shape,
      (Emit.method m.protocol method).result =
        some (.app "Result" [.name type, .name "OperationError"]) ∧
      ctx.service.shape? name = some shape ∧ ctx.names.typeName name = .ok type := by
    intro name given
    obtain ⟨type, shape, own, found, typed⟩ := (method_eq_ok made).exists_output given
    exact ⟨type, shape, by simp [Emit.method, own], found, typed⟩
  have stands : ∀ {name type : String} {shape : Shape}, ctx.service.shape? name = some shape →
      ctx.names.typeName name = .ok type → (ctx.StandsFor m item type name ↔
        (Text.pascalCase name = "D" → ctx.names.config.isReserved "D")) :=
    h.standsFor_iff_of_generic planned filled single generic
  constructor
  · rintro ⟨takes, gives⟩ name (taken | given)
    · obtain ⟨type, shape, params, found, typed⟩ := input taken
      obtain ⟨_, params', denotes⟩ := takes name taken
      obtain rfl := by simpa using params.symm.trans params'
      exact (stands found typed).mp denotes
    · obtain ⟨type, shape, result, found, typed⟩ := output given
      obtain ⟨_, result', denotes⟩ := gives name given
      obtain rfl := by simpa using result.symm.trans result'
      exact (stands found typed).mp denotes
  · intro free
    refine ⟨fun name taken => ?_, fun name given => ?_⟩
    · obtain ⟨type, shape, params, found, typed⟩ := input taken
      exact ⟨type, params, (stands found typed).mpr (free name (.inl taken))⟩
    · obtain ⟨type, shape, result, found, typed⟩ := output given
      exact ⟨type, result, (stands found typed).mpr (free name (.inr given))⟩

end Checked
end Context

/-- The types in the signatures of a client stand for the shapes of the operations, except for
shapes that are called like the parameter of the client and keep that name. -/
theorem signatures_resolve_iff {text : String} {service : Service} {config : Config} {ctx : Context}
    (loaded : Service.load text = .ok service) (made : Context.new service config = .ok ctx)
    (valid : ctx.validate = .ok ()) :
    ∃ m type methods functions, ctx.plan = .ok m ∧
      Emit.client m.protocol m.client = [type, methods] ∧ methods.param? = some "D" ∧
      methods.functions = Emit.newMethod :: Emit.regionMethod :: functions ∧
      List.Forall₂ (fun o f => ctx.ResolvesSignature m methods o f ↔
        ∀ shape, o.input = some shape ∨ o.output = some shape → Text.pascalCase shape = "D" →
          config.isReserved "D") service.operations functions := by
  have h := Context.Checked.ofLoad loaded made valid
  obtain ⟨m, planned⟩ := h.exists_plan
  obtain ⟨rfl, -, -, same⟩ := Context.new_eq_ok made
  obtain ⟨-, -, filled, -⟩ := Names.new_eq_ok (Context.names_of_new made)
  obtain ⟨type, methods, client, -, -, -, functions⟩ := Emit.client_functions m.protocol m.client
  have generic : methods.param? = some "D" := by
    cases client
    rfl
  have single : ∀ shape ∈ ctx.service.shapes, ctx.service.shape? shape.name = some shape :=
    fun _ => Service.shape?_of_mem (Service.shapes_ascending_of_load loaded)
  refine ⟨m, type, methods, _, planned, client, generic, functions, ?_⟩
  rw [List.forall₂_map_right_iff, ← same]
  have called := (Context.plan_eq_ok planned).2.2.2
  refine ((List.forall₂_and_left _ _).mpr ⟨fun _ mem => mem, called⟩).imp fun o method here => ?_
  exact h.resolvesSignature_iff planned filled single generic here.1 here.2

theorem nodes_signatures_resolve : Service.load nodesText = .ok nodes ∧
    ∃ ctx m type methods functions, Context.new nodes {} = .ok ctx ∧ ctx.validate = .ok () ∧
      ctx.plan = .ok m ∧ Emit.client m.protocol m.client = [type, methods] ∧
      methods.functions = Emit.newMethod :: Emit.regionMethod :: functions ∧
      List.Forall₂ (ctx.ResolvesSignature m methods) nodes.operations functions := by
  obtain ⟨ctx, made, valid⟩ := exists_context_nodes
  obtain ⟨m, type, methods, functions, planned, client, -, own, each⟩ :=
    signatures_resolve_iff load_nodesText made valid
  have names : ∀ o ∈ nodes.operations, ∀ shape, o.input = some shape ∨ o.output = some shape →
      Text.pascalCase shape ≠ "D" := by
    simp only [nodes, List.forall_mem_singleton, Option.some_inj]
    rintro shape (rfl | rfl) <;> decide
  refine ⟨load_nodesText, ctx, m, type, methods, functions, made, valid, planned, client, own, ?_⟩
  refine ((List.forall₂_and_left _ _).mpr ⟨names, each⟩).imp fun o f here => ?_
  exact here.2.mpr fun shape uses same => absurd same (here.1 shape uses)

/-- A service with a shape that is called like the parameter of its client. -/
def storeText : String :=
  "\x7b\"metadata\":[\"store\",\"json\"],\"operations\":\x7b\"Get\":[[],[\"D\"],[\"D\"]]\x7d,
    \"shapes\":\x7b\"D\":[\"structure\",\x7b\"Id\":[\"String\"]\x7d],\"String\":[\"string\"]\x7d\x7d"

def storeShape : Shape where
  name := "D"
  kind := .struct { members := [("Id", { shape := "String" })], required := [], payload := none }

def store : Service where
  metadata := { endpointPrefix := "store", protocol := some "json" }
  operations :=
    [ { name := "Get", method := .post, requestUri := "/", input := some "D", output := some "D",
        documentation := none } ]
  shapes := [storeShape, { name := "String", kind := .primitive .string }]

set_option maxRecDepth 4000 in
theorem load_storeText : Service.load storeText = .ok store :=
  Service.load_ofList (by decide +kernel)

/-- The shape has a declaration, and the one method of the client does not refer to it. -/
theorem shape_hidden_by_parameter : Service.load storeText = .ok store ∧
    ∃ ctx m type methods f, Context.new store {} = .ok ctx ∧ ctx.validate = .ok () ∧
      ctx.plan = .ok m ∧ Emit.client m.protocol m.client = [type, methods] ∧
      f ∈ methods.functions ∧ f.params = [.self, .typed "input" (.ref false (.name "D"))] ∧
      f.result = some (.app "Result" [.name "D", .name "OperationError"]) ∧
      Declares (parts store.shapes m) "D" (.declaration storeShape) ∧
      meaning (parts store.shapes m) methods "D" = .parameter := by
  have planned : ((planService store {}).toOption.map fun m =>
      m.client.methods.map fun op => (op.input, op.output)) =
      some [(some "D", some ⟨"D", "D"⟩)] := rfl
  have typed : ((Context.new store {}).toOption.map fun ctx => (ctx.names.typeName "D").toOption) =
      some (some "D") := rfl
  obtain ⟨m, made, methods⟩ := Option.map_eq_some_iff.mp planned
  obtain ⟨ctx, new, checked⟩ := bind_eq_ok.mp (eq_ok_of_toOption made)
  obtain ⟨valid, resolved⟩ := then_eq_ok.mp checked
  rw [new] at typed
  have typed : ctx.names.typeName "D" = .ok "D" := eq_ok_of_toOption (Option.some.inj typed)
  obtain ⟨op, listed, signature⟩ := List.mem_map.mp (methods ▸ List.mem_singleton.mpr rfl)
  obtain ⟨input, output⟩ := Prod.mk.inj signature
  obtain ⟨type, item, client, -, -, -, functions⟩ := Emit.client_functions m.protocol m.client
  obtain ⟨same, -⟩ := Context.new_eq_ok new
  have h := Context.Checked.ofLoad load_storeText new valid
  have mem : storeShape ∈ ctx.service.shapes := by
    rw [same]
    exact List.mem_cons_self
  have plain : ¬isNativeString storeShape := by decide
  have declared := h.declares_type resolved mem typed plain
  rw [same] at declared
  have generic : item.param? = some "D" := by
    cases client
    rfl
  refine ⟨load_storeText, ctx, m, type, item, Emit.method m.protocol op, new, valid, resolved,
    client, ?_, ?_, ?_, declared, if_pos generic⟩
  · rw [functions]
    exact List.mem_cons_of_mem _ (List.mem_cons_of_mem _ (List.mem_map_of_mem listed))
  · simp [Emit.method, input]
  · simp [Emit.method, output]

end ServiceClient.Generator
