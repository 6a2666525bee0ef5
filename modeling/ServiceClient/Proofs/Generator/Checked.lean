import ServiceClient.Generator.Generate
import ServiceClient.Proofs.Generator.Distinct
import ServiceClient.Proofs.Schema.References

/-! What the checks establish before any code is written. Once types and members are checked, every
shape that is referred to has a type name, and every member a field name and a wire name. In a
checked context every operation has a method name besides, and every codec that a shape or operation
depends on is generated. -/

namespace ServiceClient.Generator
open ServiceClient.Schema ServiceClient.Sequence

namespace Names
variable {n : Names}

/-- The text type of generated code keeps its name, which always is an identifier. -/
theorem typeName_native {name : String} {shape : Shape} (found : n.service.shape? name = some shape)
    (native : isNativeString shape) : n.typeName name = .ok "String" := by
  have pascal : Text.pascalCase name = "String" := by
    rw [← (Service.shape?_eq_some found).2]
    simp only [isNativeString, Bool.and_eq_true, beq_iff_eq] at native
    exact native.1
  have ident : n.typeIdent name = "String" := by
    simp only [typeIdent, found, Option.any_some, native, pascal, if_true]
  have allowed : Code.refusedKeyword "String" = false := rfl
  have spelt : Code.spellsIdentifier "String" = true := rfl
  simp [typeName, pascal, ident, checkIdentifier, allowed, spelt]

theorem encoderName_eq_ok {name encoder : String} :
    n.encoderName name = .ok encoder ↔ ∃ type, n.typeName name = .ok type ∧
      type ++ "Encoder" = encoder :=
  map_eq_ok

theorem decoderName_eq_ok {name decoder : String} :
    n.decoderName name = .ok decoder ↔ ∃ type, n.typeName name = .ok type ∧
      type ++ "Decoder" = decoder :=
  map_eq_ok

end Names

namespace Context
variable {ctx : Context}

theorem new_eq_ok {service : Service} {config : Config} (h : new service config = .ok ctx) :
    ctx.service = service ∧ ctx.config = config ∧
      ctx.names.service = service ∧ ctx.names.config = config := by
  simp only [new, Names.new, bind_eq_ok] at h
  obtain ⟨⟨⟩, -, protocol, -, names, ⟨ident, -, made⟩, same⟩ := h
  cases made
  cases same
  exact ⟨rfl, rfl, rfl, rfl⟩

theorem names_of_new {service : Service} {config : Config} (made : new service config = .ok ctx) :
    Names.new service config = .ok ctx.names := by
  simp only [new, bind_eq_ok] at made
  obtain ⟨⟨⟩, -, protocol, -, names, named, ⟨⟩⟩ := made
  exact named

theorem accepted_of_new {service : Service} {config : Config}
    (made : new service config = .ok ctx) : config.validate = .ok () := by
  obtain ⟨⟨⟩, accepted, -⟩ := bind_eq_ok.mp made
  cases valid : config.validate with
  | ok => rfl
  | error e =>
    rw [valid] at accepted
    cases accepted

theorem shape_eq_ok {name : String} {target : Shape} :
    ctx.shape name = .ok target ↔ ctx.service.shape? name = some target := by
  unfold shape
  split <;> simp [*]

/-- A member without a wire name of its own takes one from its target, which is defined. -/
theorem exists_wireName (name : String) {m : Member} {target : Shape}
    (found : ctx.service.shape? m.shape = some target) :
    ∃ wire, ctx.wireName name m = .ok wire := by
  cases written : m.locationName with
  | some wire => exact ⟨wire, by simp only [wireName, written]⟩
  | none =>
    exact ⟨(target.element?.map elementWireName).getD name, by
      simp [wireName, written, shape_eq_ok.mpr found, bind, Except.bind]⟩

theorem validate_eq_ok : ctx.validate = .ok () ↔
    (∀ shape ∈ ctx.service.shapes, ctx.checkShape shape = .ok ()) ∧
    checkRecursion ctx.service = .ok () ∧
    ctx.checkTypeNames = .ok () ∧
    (∀ shape ∈ ctx.service.shapes, ∀ s, shape.kind = .struct s →
      ctx.checkMembers shape.name [] [] s.members = .ok ()) ∧
    (∀ shape ∈ ctx.service.shapes, ctx.checkShapeCodecs shape = .ok ()) ∧
    (∀ o ∈ ctx.service.operations, ctx.checkOperationCodecs o = .ok ()) ∧
    ctx.checkMethods = .ok () := by
  simp only [validate, checkCodecs, then_eq_ok, forM_eq_ok, and_assoc]
  refine and_congr_right' (and_congr_right' (and_congr_right' (and_congr_left' ?_)))
  refine forall₂_congr fun shape _ => ?_
  cases kind : shape.kind <;> simp

end Context

/-- A context for a loaded service whose types and members pass the checks of their names. -/
structure Context.Resolved (ctx : Context) : Prop where
  names_service : ctx.names.service = ctx.service
  references : ctx.service.checkReferences = .ok ()
  types : ctx.checkTypeNames = .ok ()
  members : ∀ shape ∈ ctx.service.shapes, ∀ s, shape.kind = .struct s →
    ctx.checkMembers shape.name [] [] s.members = .ok ()

/-- A context for a loaded service that passes every check. -/
structure Context.Checked (ctx : Context) : Prop extends ctx.Resolved where
  valid : ctx.validate = .ok ()

theorem Context.Checked.ofReferences {service : Service} {config : Config} {ctx : Context}
    (references : service.checkReferences = .ok ()) (made : Context.new service config = .ok ctx)
    (valid : ctx.validate = .ok ()) : ctx.Checked := by
  obtain ⟨rfl, -, names, -⟩ := Context.new_eq_ok made
  obtain ⟨-, -, types, members, -⟩ := Context.validate_eq_ok.mp valid
  exact ⟨⟨names, references, types, members⟩, valid⟩

theorem Context.Checked.ofLoad {text : String} {service : Service} {config : Config}
    {ctx : Context} (loaded : Service.load text = .ok service)
    (made : Context.new service config = .ok ctx) (valid : ctx.validate = .ok ()) :
    ctx.Checked :=
  .ofReferences (Service.checkReferences_load loaded) made valid

namespace Context.Resolved
variable {ctx : Context}

theorem exists_typeName (h : ctx.Resolved) {name : String} {target : Shape}
    (found : ctx.service.shape? name = some target) :
    ∃ type, ctx.names.typeName name = .ok type := by
  obtain ⟨mem, rfl⟩ := Service.shape?_eq_some found
  by_cases native : isNativeString target
  · exact ⟨"String", Names.typeName_native (h.names_service ▸ found) native⟩
  · have unique := h.types
    rw [checkTypeNames] at unique
    have own : (ctx.names.typeName target.name, target.name) ∈ ctx.itemNames target := by
      simp [itemNames, native]
    exact exists_name_of_claimNames unique
      (List.mem_append_left _ (List.mem_flatMap_of_mem mem own))

theorem exists_member (h : ctx.Resolved) {shape : Shape} {s : Structure}
    (mem : shape ∈ ctx.service.shapes) (kind : shape.kind = .struct s)
    {m : String × Member} (here : m ∈ s.members) :
    ∃ target, ctx.service.shape? m.2.shape = some target := by
  have part : (m.1, m.2) ∈ shape.parts := by simpa [Shape.parts, kind] using here
  exact Service.exists_shape_of_part h.references mem part

theorem exists_fieldName (h : ctx.Resolved) {shape : Shape} {s : Structure}
    (mem : shape ∈ ctx.service.shapes) (kind : shape.kind = .struct s)
    {m : String × Member} (here : m ∈ s.members) :
    ∃ field, ctx.names.snakeName m.1 = .ok field :=
  exists_snakeName_of_checkMembers (h.members shape mem s kind) here

theorem exists_memberPlans (h : ctx.Resolved) {shape : Shape} {s : Structure}
    (mem : shape ∈ ctx.service.shapes) (kind : shape.kind = .struct s) :
    ∃ plans, ctx.memberPlans s = .ok plans := by
  refine exists_mapM_eq_ok fun m here => ?_
  obtain ⟨target, found⟩ := h.exists_member mem kind here
  obtain ⟨field, named⟩ := h.exists_fieldName mem kind here
  obtain ⟨wire, wired⟩ := exists_wireName m.1 found
  obtain ⟨type, typed⟩ := h.exists_typeName found
  simp only [memberPlan, named, shape_eq_ok.mpr found, wired, typed, bind, Except.bind]
  exact ⟨_, rfl⟩

end Context.Resolved

theorem Context.Checked.exists_methodName {ctx : Context} (h : ctx.Checked) {o : Operation}
    (mem : o ∈ ctx.service.operations) : ∃ method, ctx.names.snakeName o.name = .ok method := by
  have unique := (Context.validate_eq_ok.mp h.valid).2.2.2.2.2.2
  rw [checkMethods] at unique
  have own : (ctx.names.snakeName o.name, o.name) ∈
      ctx.service.operations.map fun o => (ctx.names.snakeName o.name, o.name) :=
    List.mem_map_of_mem mem
  exact exists_name_of_claimNames unique own

end ServiceClient.Generator
