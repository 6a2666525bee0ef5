import ServiceClient.Proofs.Generator.Checked

/-! Assembly of a checked service. Every name and shape that a declaration, encoder or decoder asks
for is resolved once types and members are checked, and all that a method asks for but its own name,
so that assembly of a checked service does not fail. -/

namespace ServiceClient.Generator
open ServiceClient.Schema ServiceClient.Sequence

namespace Context.Resolved
variable {ctx : Context}

theorem exists_partType (h : ctx.Resolved) {shape : Shape} (mem : shape ∈ ctx.service.shapes)
    {part : String} {m : Member} (here : (part, m) ∈ shape.parts) :
    ∃ type, ctx.names.typeName m.shape = .ok type := by
  obtain ⟨target, found⟩ := Service.exists_shape_of_part h.references mem here
  exact h.exists_typeName found

theorem exists_ownType (h : ctx.Resolved) {shape : Shape} (mem : shape ∈ ctx.service.shapes) :
    ∃ type, ctx.names.typeName shape.name = .ok type := by
  obtain ⟨target, found⟩ := Service.exists_shape_of_mem mem
  exact h.exists_typeName found

section Shapes
variable (h : ctx.Resolved) {shape : Shape} (mem : shape ∈ ctx.service.shapes)
include h mem

theorem exists_elementType {element : Member} (kind : shape.kind = .list element) :
    ∃ type, ctx.names.typeName element.shape = .ok type := by
  have part : ("member", element) ∈ shape.parts := by simp [Shape.parts, kind]
  exact h.exists_partType mem part

theorem exists_keyType {key value : Member} (kind : shape.kind = .map key value) :
    ∃ type, ctx.names.typeName key.shape = .ok type := by
  have part : ("key", key) ∈ shape.parts := by simp [Shape.parts, kind]
  exact h.exists_partType mem part

theorem exists_valueType {key value : Member} (kind : shape.kind = .map key value) :
    ∃ type, ctx.names.typeName value.shape = .ok type := by
  have part : ("value", value) ∈ shape.parts := by simp [Shape.parts, kind]
  exact h.exists_partType mem part

theorem exists_encoder : ∃ e, ctx.encoder shape = .ok e := by
  obtain ⟨type, typed⟩ := h.exists_ownType mem
  suffices body : ∃ body, ctx.encoderBody shape.kind = .ok body by
    obtain ⟨body, made⟩ := body
    exact ⟨⟨type, body⟩, by simp only [encoder, typed, made, bind, Except.bind]⟩
  cases kind : shape.kind with
  | primitive k => exact ⟨.scalar, rfl⟩
  | struct s =>
    obtain ⟨plans, planned⟩ := h.exists_memberPlans mem kind
    simp only [encoderBody, planned, bind, Except.bind]
    exact ⟨_, rfl⟩
  | list element =>
    obtain ⟨type, typed⟩ := h.exists_elementType mem kind
    simp only [encoderBody, typed, bind, Except.bind]
    exact ⟨_, rfl⟩
  | map key value =>
    obtain ⟨keyType, keyTyped⟩ := h.exists_keyType mem kind
    obtain ⟨valueType, valueTyped⟩ := h.exists_valueType mem kind
    simp only [encoderBody, keyTyped, valueTyped, bind, Except.bind]
    exact ⟨_, rfl⟩

theorem exists_decoder : ∃ d, ctx.decoder shape = .ok d := by
  obtain ⟨type, typed⟩ := h.exists_ownType mem
  suffices body : ∃ body, ctx.decoderBody shape.name shape.kind = .ok body by
    obtain ⟨body, made⟩ := body
    exact ⟨⟨type, body⟩, by simp only [decoder, typed, made, bind, Except.bind]⟩
  cases kind : shape.kind with
  | primitive k => exact ⟨.scalar k, rfl⟩
  | struct s =>
    obtain ⟨plans, planned⟩ := h.exists_memberPlans mem kind
    simp only [decoderBody, planned, bind, Except.bind]
    exact ⟨_, rfl⟩
  | list element =>
    obtain ⟨type, typed⟩ := h.exists_elementType mem kind
    simp only [decoderBody, typed, bind, Except.bind]
    exact ⟨_, rfl⟩
  | map key value =>
    obtain ⟨keyType, keyTyped⟩ := h.exists_keyType mem kind
    obtain ⟨valueType, valueTyped⟩ := h.exists_valueType mem kind
    simp only [decoderBody, keyTyped, valueTyped, bind, Except.bind]
    exact ⟨_, rfl⟩

theorem exists_fieldDeclaration {s : Structure} (kind : shape.kind = .struct s)
    {m : String × Member} (here : m ∈ s.members) :
    ∃ d, ctx.fieldDeclaration s m.1 m.2 = .ok d := by
  obtain ⟨target, found⟩ := h.exists_member mem kind here
  obtain ⟨field, named⟩ := h.exists_fieldName mem kind here
  obtain ⟨type, typed⟩ := h.exists_typeName found
  simp only [fieldDeclaration, named, typed, bind, Except.bind]
  exact ⟨_, rfl⟩

theorem exists_typeBody : ∃ body, ctx.typeBody shape = .ok body := by
  cases kind : shape.kind with
  | primitive k =>
    simp only [typeBody, alias?, kind, bind, Except.bind]
    exact ⟨_, rfl⟩
  | struct s =>
    obtain ⟨fields, declared⟩ := exists_mapM_eq_ok fun m (here : m ∈ s.members) =>
      h.exists_fieldDeclaration mem kind here
    simp only [typeBody, alias?, kind, Shape.structure?, Option.getD_some, declared, bind,
      Except.bind]
    exact ⟨_, rfl⟩
  | list element =>
    obtain ⟨type, typed⟩ := h.exists_elementType mem kind
    simp only [typeBody, alias?, kind, typed, bind, Except.bind]
    exact ⟨_, rfl⟩
  | map key value =>
    obtain ⟨keyType, keyTyped⟩ := h.exists_keyType mem kind
    obtain ⟨valueType, valueTyped⟩ := h.exists_valueType mem kind
    simp only [typeBody, alias?, kind, keyTyped, valueTyped, bind, Except.bind]
    exact ⟨_, rfl⟩

theorem exists_declaration : ∃ d, ctx.declaration shape = .ok d := by
  by_cases native : isNativeString shape
  · exact ⟨none, by simp only [declaration, native, if_true]⟩
  · obtain ⟨name, named⟩ := h.exists_ownType mem
    obtain ⟨body, made⟩ := h.exists_typeBody mem
    simp only [declaration, native, named, made, bind, Except.bind, Bool.false_eq_true, if_false]
    exact ⟨_, rfl⟩

theorem exists_shapePlan : ∃ plan, ctx.shapePlan shape = .ok plan := by
  obtain ⟨d, decoded⟩ := h.exists_decoder mem
  obtain ⟨e, encoded⟩ := h.exists_encoder mem
  obtain ⟨t, declared⟩ := h.exists_declaration mem
  simp only [shapePlan, decoded, encoded, declared, bind, Except.bind, Functor.map, Except.map]
  split <;> split <;> exact ⟨_, rfl⟩

end Shapes

/-- A method depends on the name of its operation in its own name only: whatever it takes and gives
has a type. -/
theorem exists_methodAs (h : ctx.Resolved) {o : Operation} (mem : o ∈ ctx.service.operations) :
    ∃ m : Codec.Method,
      (∀ name, ctx.names.snakeName o.name = .ok name → ctx.method o = .ok { m with name }) ∧
      List.Forall₂ (fun shape type => ctx.names.typeName shape = .ok type)
        o.input.toList m.input.toList ∧
      List.Forall₂ (fun shape (output : Codec.Output) =>
        ctx.names.typeName shape = .ok output.type) o.output.toList m.output.toList := by
  obtain ⟨input, taken⟩ := exists_optionMapM_eq_ok fun shape (here : shape ∈ o.input) =>
    have ⟨_, found⟩ := Service.exists_shape_of_input h.references mem here
    h.exists_typeName found
  obtain ⟨output, given⟩ : ∃ output, (o.output.mapM fun shapeName => do
      let shape ← ctx.shape shapeName
      let type ← ctx.names.typeName shape.name
      .ok ({ type, shape := shape.name } : Codec.Output)) = .ok output := by
    refine exists_optionMapM_eq_ok fun shape here => ?_
    obtain ⟨target, found⟩ := Service.exists_shape_of_output h.references mem here
    obtain ⟨type, typed⟩ := h.exists_ownType (Service.shape?_eq_some found).1
    simp only [shape_eq_ok.mpr found, typed, bind, Except.bind]
    exact ⟨_, rfl⟩
  refine ⟨⟨Docs.ofOptional o.documentation, "", o.name, o.method, o.requestUri, ctx.setup o, input,
    output⟩, fun name named => ?_, optionMapM_eq_ok.mp taken,
    (optionMapM_eq_ok.mp given).imp fun shape output made => ?_⟩
  · simp only [method, named, taken, given, bind, Except.bind] at *
  · obtain ⟨target, found, made⟩ := bind_eq_ok.mp made
    obtain ⟨type, typed, ⟨⟩⟩ := bind_eq_ok.mp made
    have own := (Service.shape?_eq_some (shape_eq_ok.mp found)).2
    exact own ▸ typed

end Context.Resolved

namespace Context.Checked
variable {ctx : Context}

theorem exists_method (h : ctx.Checked) {o : Operation} (mem : o ∈ ctx.service.operations) :
    ∃ m, ctx.method o = .ok m := by
  obtain ⟨name, named⟩ := h.exists_methodName mem
  obtain ⟨m, made, -⟩ := h.exists_methodAs mem
  exact ⟨_, made name named⟩

/-- A checked context has a plan of its module. -/
theorem exists_plan (h : ctx.Checked) : ∃ plan, ctx.plan = .ok plan := by
  obtain ⟨shapes, shaped⟩ := exists_mapM_eq_ok fun _ mem => h.exists_shapePlan mem
  obtain ⟨methods, called⟩ := exists_mapM_eq_ok fun _ mem => h.exists_method mem
  simp only [plan, client, shaped, called, bind, Except.bind]
  exact ⟨_, rfl⟩

end Context.Checked

theorem generate_of_plan {service : Service} {config : Config} {ctx : Context}
    {plan : Codec.Module} (made : Context.new service config = .ok ctx)
    (valid : ctx.validate = .ok ()) (planned : ctx.plan = .ok plan) :
    generate service config = .ok (notice ++ Code.layout (Emit.items plan)) := by
  simp only [generate, planService, made, valid, planned, bind, Except.bind]

/-- Generation for a loaded service fails exactly with the error of its context or its validation:
assembly adds none. -/
theorem assembly_never_fails {text : String} {service : Service} (config : Config)
    (loaded : Service.load text = .ok service) :
    (∀ ctx, Context.new service config = .ok ctx → ctx.validate = .ok () →
      ∃ plan, ctx.plan = .ok plan ∧
        generate service config = .ok (notice ++ Code.layout (Emit.items plan))) ∧
    ∀ e, generate service config = .error e ↔ Context.new service config = .error e ∨
      ∃ ctx, Context.new service config = .ok ctx ∧ ctx.validate = .error e := by
  have assembles : ∀ ctx, Context.new service config = .ok ctx → ctx.validate = .ok () →
      ∃ plan, ctx.plan = .ok plan ∧
        generate service config = .ok (notice ++ Code.layout (Emit.items plan)) := by
    intro ctx made valid
    obtain ⟨plan, planned⟩ := (Context.Checked.ofLoad loaded made valid).exists_plan
    exact ⟨plan, planned, generate_of_plan made valid planned⟩
  refine ⟨assembles, fun e => ?_⟩
  cases made : Context.new service config with
  | error e' => simp [generate, planService, made, bind, Except.bind]
  | ok ctx =>
    cases valid : ctx.validate with
    | error e' => simp [generate, planService, made, valid, bind, Except.bind]
    | ok u =>
      obtain ⟨plan, planned, code⟩ := assembles ctx made valid
      simp [code, valid]

/-- A service with a renamed shape, a structure that holds lists and maps of itself, and a request
with a header and a raw payload. -/
def nodesText : String :=
  "\x7b\"metadata\":[\"nodes\",\"rest-xml\"],
    \"operations\":\x7b\"Put\":[[],[\"PutRequest\"],[\"Node\"]]\x7d,
    \"shapes\":\x7b\"Error\":[\"string\"],\"String\":[\"string\"],
    \"Kids\":\x7b\"type\":\"list\",\"member\":[\"Node\"]\x7d,
    \"Links\":\x7b\"type\":\"map\",\"key\":[\"String\"],\"value\":[\"Node\"]\x7d,
    \"Node\":[\"structure\",\x7b\"Type\":[\"Error\"],
    \"Kids\":[\"Kids\",null,\"KidSet\"],\"Links\":[\"Links\"]\x7d],
    \"PutRequest\":[\"structure\",\x7b\"Id\":[\"String\",\"header\"],\"Text\":[\"Error\"]\x7d,
    [\"Id\"],\"Text\"]\x7d\x7d"

def nodes : Service where
  metadata := { endpointPrefix := "nodes", protocol := some "rest-xml" }
  operations :=
    [ { name := "Put", method := .post, requestUri := "/", input := some "PutRequest",
        output := some "Node", documentation := none } ]
  shapes :=
    [ { name := "Error", kind := .primitive .string },
      { name := "Kids", kind := .list { shape := "Node" } },
      { name := "Links", kind := .map { shape := "String" } { shape := "Node" } },
      { name := "Node", kind := .struct
          { members :=
              [ ("Type", { shape := "Error" }),
                ("Kids", { shape := "Kids", locationName := some "KidSet" }),
                ("Links", { shape := "Links" }) ],
            required := [], payload := none } },
      { name := "PutRequest", kind := .struct
          { members :=
              [ ("Id", { shape := "String", location := .header }),
                ("Text", { shape := "Error" }) ],
            required := ["Id"], payload := some "Text" } },
      { name := "String", kind := .primitive .string } ]

set_option maxRecDepth 8000 in
theorem load_nodesText : Service.load nodesText = .ok nodes :=
  Service.load_ofList (by decide +kernel)

theorem exists_context_nodes :
    ∃ ctx, Context.new nodes {} = .ok ctx ∧ ctx.validate = .ok () :=
  bind_eq_ok.mp (eq_ok_of_toOption (by decide +kernel))

theorem assembly_of_nodes : Service.load nodesText = .ok nodes ∧
    ∃ ctx, Context.new nodes {} = .ok ctx ∧ ctx.validate = .ok () ∧ ∃ plan, ctx.plan = .ok plan ∧
      generate nodes {} = .ok (notice ++ Code.layout (Emit.items plan)) := by
  obtain ⟨ctx, made, valid⟩ := exists_context_nodes
  exact ⟨load_nodesText, ctx, made, valid,
    (assembly_never_fails {} load_nodesText).1 ctx made valid⟩

end ServiceClient.Generator
