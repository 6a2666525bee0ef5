import ServiceClient.Proofs.Generator.Closure
import ServiceClient.Proofs.Generator.EmittedNames

/-! What a checked module defines. No name is given twice, whether to items, fields, functions,
variables or arms, and those of structures and operations are the names of their members and methods
in order. -/

namespace ServiceClient.Generator
open ServiceClient.Code ServiceClient.Codec ServiceClient.Schema ServiceClient.Sequence

theorem codecItems_defineOnce {name : String} {f : Function} (locals : f.locals.Nodup)
    (arms : f.armTexts.Nodup) : ∀ item ∈ Emit.codecItems name f, item.DefinesOnce := by
  have type : (Item.unitStruct [] [] name).DefinesOnce := by
    constructor <;> simp [Item.fieldNames, Item.functions]
  have own : (Item.impl none (.name name) [.function f]).functions = [f] := rfl
  have codec : (Item.impl none (.name name) [.function f]).DefinesOnce := by
    constructor <;> simp [Item.fieldNames, own, locals, arms]
  simp [Emit.codecItems, type, codec]

theorem clientItems_defineOnce (protocol : Protocol) {c : Client}
    (distinct : (clientMethods ++ c.methods.map (·.name)).Nodup) :
    ∀ item ∈ Emit.client protocol c, item.DefinesOnce := by
  obtain ⟨type, methods, items, fields, none, bare, functions⟩ := Emit.client_functions protocol c
  have named : methods.functions.map (·.name) = clientMethods ++ c.methods.map (·.name) := by
    simp [functions, Emit.newMethod, Emit.regionMethod, clientMethods, Emit.method]
  have own : ∀ f ∈ methods.functions, f.locals.Nodup ∧ f.armTexts.Nodup := by
    rw [functions, List.forall_mem_cons, List.forall_mem_cons, List.forall_mem_map]
    refine ⟨?_, ?_, fun m _ => ?_⟩
    · simp [Function.locals, Function.armTexts, Emit.newMethod, Emit.tail, List.filterMap_cons]
    · simp [Function.locals, Function.armTexts, Emit.regionMethod, Emit.tail, List.filterMap_cons]
    · simp [Emit.method_defines]
  have state : type.DefinesOnce := by constructor <;> simp [fields, none]
  have calls : methods.DefinesOnce :=
    ⟨by simp [bare], named ▸ distinct, fun f mem => (own f mem).1, fun f mem => (own f mem).2⟩
  simp [items, state, calls]

theorem structure?_eq_some {shape : Shape} {s : Structure} :
    shape.structure? = some s ↔ shape.kind = .struct s := by
  cases kind : shape.kind <;> simp [Shape.structure?, kind]

theorem declarations_names (parts : List (Part × List Item)) :
    (declarations parts).map (·.1) = (parts.flatMap (·.2)).filterMap Item.declared? := by
  simp [declarations, List.map_flatMap, List.filterMap_flatMap, Function.comp_def]

def bodyMembers (s : Structure) : List (String × Member) :=
  s.members.filter (·.2.location != .header)

def headerMembers (s : Structure) : List (String × Member) :=
  s.members.filter (·.2.location == .header)

namespace Context
variable (ctx : Context)

def fieldNames (members : List (String × Member)) : Except Error (List String) :=
  members.mapM fun m => ctx.names.snakeName m.1

def slotNames (members : List (String × Member)) : Except Error (List String) :=
  members.mapM fun m => (ctx.names.snakeName m.1).map ("slot_" ++ ·)

def wireNames (members : List (String × Member)) : Except Error (List String) :=
  members.mapM fun m => ctx.wireName m.1 m.2

def methodNames : Except Error (List String) :=
  ctx.service.operations.mapM fun o => ctx.names.snakeName o.name

/-- The structure is declared with a field for each member, and its decoder has a slot for each
member and an arm for each member in the body. -/
structure NamesMembers (m : Module) (shape : Shape) (s : Structure) : Prop where
  declared : ∃ type item, ctx.names.typeName shape.name = .ok type ∧ item.declared? = some type ∧
    (.declaration shape, [item]) ∈ parts ctx.service.shapes m ∧
      ctx.fieldNames s.members = .ok item.fieldNames
  decoded : ctx.hasDecoder shape.name → ∃ name f, ctx.names.decoderName shape.name = .ok name ∧
    (.decoder shape, Emit.codecItems name f) ∈ parts ctx.service.shapes m ∧
      ctx.slotNames (bodyMembers s ++ headerMembers s) = .ok f.locals ∧
      ctx.wireNames (bodyMembers s) = .ok f.armTexts

/-- The client has its own two functions and then a method for each operation. -/
structure NamesMethods (m : Module) : Prop where
  called : ∃ items methods, (.client, items) ∈ parts ctx.service.shapes m ∧
    (items.flatMap Item.functions).map (·.name) = clientMethods ++ methods ∧
    ctx.methodNames = .ok methods ∧ (clientMethods ++ methods).Nodup

section Members
variable {ctx : Context} {s : Structure} {plans : List MemberPlan}
  (planned : ctx.memberPlans s = .ok plans)
include planned

theorem fieldNames_of_memberPlans :
    ctx.fieldNames s.members = .ok ((plans.map readField).map (·.field)) := by
  rw [fieldNames, mapM_eq_ok, List.forall₂_map_right_iff]
  exact (readAs_of_memberPlans planned).1.flip.imp fun _ _ read => (ReadAs.names read).1

theorem wireNames_of_memberPlans :
    ctx.wireNames (bodyMembers s) = .ok (Emit.wires (plans.map readField)) := by
  rw [wireNames, mapM_eq_ok, Emit.wires, List.forall₂_map_right_iff]
  exact (readAs_of_memberPlans planned).2.1.flip.imp fun _ _ read => (ReadAs.names read).2

theorem slotNames_of_memberPlans :
    ctx.slotNames (bodyMembers s ++ headerMembers s) =
      .ok (Emit.slots (plans.map readField)) := by
  obtain ⟨-, body, headers⟩ := readAs_of_memberPlans planned
  rw [slotNames, mapM_eq_ok, Emit.slots, List.forall₂_map_right_iff]
  refine (List.rel_append body headers).flip.imp fun m f read => ?_
  rw [(ReadAs.names read).1]
  rfl

end Members

theorem slots_nodup {fields : List FieldRead} (distinct : (fields.map (·.field)).Nodup) :
    (Emit.slots fields).Nodup := by
  have same : (Emit.slots fields).Perm ((fields.map (·.field)).map ("slot_" ++ ·)) := by
    rw [List.map_map]
    exact (Emit.slotOrder_perm fields).map FieldRead.slot
  exact same.nodup_iff.mpr (distinct.map fun _ _ => (String.append_right_inj _).mp)

namespace Checked
variable {ctx : Context} {m : Module}

section Structures
variable (h : ctx.Checked) {shape : Shape} (mem : shape ∈ ctx.service.shapes) {s : Structure}
  (kind : shape.kind = .struct s)
include h mem kind

theorem exists_fieldNames : ∃ names, ctx.fieldNames s.members = .ok names ∧ names.Nodup := by
  have checked := (Context.validate_eq_ok.mp h.valid).2.2.2.1 shape mem s kind
  obtain ⟨⟨names, named, distinct, -⟩, -⟩ := checkMembers_names checked
  exact ⟨names, mapM_eq_ok_iff_map.mpr named, distinct⟩

theorem exists_wireNames : ∃ names, ctx.wireNames (bodyMembers s) = .ok names ∧ names.Nodup := by
  have checked := (Context.validate_eq_ok.mp h.valid).2.2.2.1 shape mem s kind
  obtain ⟨-, names, named, distinct, -⟩ := checkMembers_names checked
  exact ⟨names, mapM_eq_ok_iff_map.mpr named, distinct⟩

theorem fields_nodup {plans : List MemberPlan} (planned : ctx.memberPlans s = .ok plans) :
    ((plans.map readField).map (·.field)).Nodup := by
  obtain ⟨names, named, distinct⟩ := h.exists_fieldNames mem kind
  rw [fieldNames_of_memberPlans planned] at named
  cases named
  exact distinct

theorem wires_nodup {plans : List MemberPlan} (planned : ctx.memberPlans s = .ok plans) :
    (Emit.wires (plans.map readField)).Nodup := by
  obtain ⟨names, named, distinct⟩ := h.exists_wireNames mem kind
  rw [wireNames_of_memberPlans planned] at named
  cases named
  exact distinct

end Structures

section Shapes
variable (h : ctx.Checked) {shape : Shape} (mem : shape ∈ ctx.service.shapes)
include h mem

theorem decoderBody_defines {body : DecoderBody}
    (made : ctx.decoderBody shape.name shape.kind = .ok body) (protocol : Protocol) :
    (Emit.decoderLocals protocol body).Nodup ∧ (Emit.decoderArms body).Nodup := by
  have made := decoderBody_eq_ok made
  cases kind : shape.kind with
  | primitive k =>
    simp only [kind] at made
    subst made
    cases protocol <;> simp [Emit.decoderLocals, Emit.decoderArms]
  | list element =>
    simp only [kind] at made
    obtain ⟨type, -, rfl⟩ := made
    cases protocol <;> simp [Emit.decoderLocals, Emit.decoderArms]
  | map key value =>
    simp only [kind] at made
    obtain ⟨keyType, valueType, -, -, rfl⟩ := made
    cases protocol <;> simp [Emit.decoderLocals, Emit.decoderArms]
  | struct s =>
    simp only [kind] at made
    obtain ⟨plans, planned, rfl⟩ := made
    exact ⟨by simpa [Emit.decoderLocals] using slots_nodup (h.fields_nodup mem kind planned),
      h.wires_nodup mem kind planned⟩

end Shapes

end Checked

/-- A structure is declared with a field for each member. -/
theorem typeBody_struct {ctx : Context} {shape : Shape} {body : TypeBody} {s : Structure}
    (made : ctx.typeBody shape = .ok body) (kind : shape.kind = .struct s) :
    ∃ fields, body = .struct fields ∧
      List.Forall₂ (fun m f => ctx.fieldDeclaration s m.1 m.2 = .ok f) s.members fields := by
  simpa only [kind] using typeBody_eq_ok made

theorem fieldNames_of_fieldDeclarations {ctx : Context} {s : Structure}
    {fields : List FieldDeclaration}
    (declared : List.Forall₂ (fun m f => ctx.fieldDeclaration s m.1 m.2 = .ok f) s.members fields) :
    ctx.fieldNames s.members = .ok (fields.map (·.name)) := by
  rw [fieldNames, mapM_eq_ok, List.forall₂_map_right_iff]
  exact declared.imp fun m f made => (fieldDeclaration_eq_ok made).1

/-- Any other shape is declared as an alias. -/
theorem typeBody_alias {ctx : Context} {shape : Shape} {body : TypeBody}
    (made : ctx.typeBody shape = .ok body) (plain : shape.structure? = none) :
    ∃ target, body = .alias target := by
  have made := typeBody_eq_ok made
  cases kind : shape.kind with
  | struct s => simp [Shape.structure?, kind] at plain
  | primitive k =>
    simp only [kind] at made
    exact ⟨_, made⟩
  | list element =>
    simp only [kind] at made
    obtain ⟨type, -, rfl⟩ := made
    exact ⟨_, rfl⟩
  | map key value =>
    simp only [kind] at made
    obtain ⟨keyType, valueType, -, -, rfl⟩ := made
    exact ⟨_, rfl⟩

namespace Checked
variable {ctx : Context} {m : Module}

section Parts
variable (h : ctx.Checked) (planned : ctx.plan = .ok m) {shape : Shape}
  (mem : shape ∈ ctx.service.shapes) {s : ShapePlan} (made : ctx.shapePlan shape = .ok s)
include h mem made

theorem decoderPart_definesOnce :
    ∀ item ∈ (s.decoder.map (Emit.decoder m.protocol)).getD [], item.DefinesOnce := by
  obtain ⟨type, typed⟩ := h.exists_ownType mem
  have decoded := (shapePlan_eq_ok made).1
  by_cases decodes : ctx.hasDecoder shape.name
  · simp only [decodes, if_true] at decoded
    obtain ⟨d, made, found⟩ := decoded
    obtain ⟨f, items, locals, arms⟩ := Emit.decoder_defines m.protocol d
    have distinct := h.decoderBody_defines mem (decoder_eq_ok typed made).2 m.protocol
    rw [found, Option.map_some, Option.getD_some, items]
    exact codecItems_defineOnce (locals ▸ distinct.1) (arms ▸ distinct.2)
  · simp only [decodes, Bool.false_eq_true, if_false] at decoded
    simp [decoded]

theorem declarationPart_definesOnce :
    ∀ item ∈ (s.declaration.map Emit.declaration).toList, item.DefinesOnce := by
  obtain ⟨type, typed⟩ := h.exists_ownType mem
  have declared := declaration_eq_ok typed (shapePlan_eq_ok made).2.1
  by_cases native : isNativeString shape
  · simp only [native, if_true] at declared
    simp [declared]
  · simp only [native, Bool.false_eq_true, if_false] at declared
    obtain ⟨body, made, found⟩ := declared
    rw [found]
    generalize Docs.ofOptional shape.documentation = docs
    have fields : (Emit.declaration ⟨docs, type, body⟩).fieldNames.Nodup := by
      rw [Emit.declaration_fieldNames]
      cases structured : shape.structure? with
      | none =>
        obtain ⟨target, rfl⟩ := typeBody_alias made structured
        exact List.nodup_nil
      | some s =>
        have kind := structure?_eq_some.mp structured
        obtain ⟨fields, rfl, declared⟩ := typeBody_struct made kind
        obtain ⟨names, named, distinct⟩ := h.exists_fieldNames mem kind
        cases (fieldNames_of_fieldDeclarations declared).symm.trans named
        exact distinct
    have item : (Emit.declaration ⟨docs, type, body⟩).DefinesOnce := by
      constructor <;> simp [fields, Emit.declaration_functions]
    simp [item]

omit h mem made in
theorem encoderPart_definesOnce (s : ShapePlan) :
    ∀ item ∈ (s.encoder.map Emit.encoder).getD [], item.DefinesOnce := by
  cases found : s.encoder with
  | none => simp
  | some e =>
    obtain ⟨f, items, locals, arms⟩ := Emit.encoder_defines e
    rw [Option.map_some, Option.getD_some, items]
    exact codecItems_defineOnce (by simp [locals]) (by simp [arms])

end Parts

theorem methodNames_distinct (h : ctx.Checked) (planned : ctx.plan = .ok m) :
    ctx.methodNames = .ok (m.client.methods.map (·.name)) ∧
      (clientMethods ++ m.client.methods.map (·.name)).Nodup := by
  have named : ctx.methodNames = .ok (m.client.methods.map (·.name)) := by
    rw [methodNames, mapM_eq_ok, List.forall₂_map_right_iff]
    exact (plan_eq_ok planned).2.2.2.imp fun o method made => (method_eq_ok made).name
  have checked := (Context.validate_eq_ok.mp h.valid).2.2.2.2.2.2
  rw [checkMethods] at checked
  obtain ⟨names, resolved, distinct, apart⟩ := claimNames_eq_ok checked
  have same : ctx.methodNames = .ok names := by
    rw [methodNames, mapM_eq_ok_iff_map, ← resolved, List.map_map]
    rfl
  cases same.symm.trans named
  refine ⟨named, List.nodup_append'.mpr ⟨by decide, distinct, ?_⟩⟩
  intro name own mem
  exact apart _ mem (by simpa using own)

/-- The parts of a shape, and of the whole module, define everything once. -/
theorem part_definesOnce (h : ctx.Checked) (planned : ctx.plan = .ok m) :
    ∀ part ∈ parts ctx.service.shapes m, ∀ item ∈ part.2, item.DefinesOnce := by
  obtain ⟨-, shaped, -, -⟩ := plan_eq_ok planned
  intro part mem
  simp only [parts, List.mem_append, List.mem_cons, List.mem_flatMap, List.not_mem_nil,
    or_false] at mem
  rcases mem with (rfl | ⟨⟨shape, s⟩, zipped, mem⟩) | rfl
  · have prelude : (Item.useAll ["shapegen", "prelude"]).DefinesOnce := by
      constructor <;> simp [Item.fieldNames, Item.functions]
    simp [prelude]
  · have made := List.forall₂_zip shaped zipped
    have own := (List.of_mem_zip zipped).1
    simp only [shapeParts, List.mem_cons, List.not_mem_nil, or_false] at mem
    rcases mem with rfl | rfl | rfl
    · exact h.decoderPart_definesOnce own made
    · exact h.declarationPart_definesOnce own made
    · exact encoderPart_definesOnce s
  · exact clientItems_defineOnce m.protocol (h.methodNames_distinct planned).2

theorem definesOnce (h : ctx.Checked) (planned : ctx.plan = .ok m) :
    DefinesOnce (Emit.items m) := by
  obtain ⟨-, shaped, -, -⟩ := plan_eq_ok planned
  rw [← parts_items shaped.length_eq]
  refine ⟨declarations_names _ ▸ h.declarations_nodup planned, fun item mem => ?_⟩
  obtain ⟨part, here, inside⟩ := List.mem_flatMap.mp mem
  exact h.part_definesOnce planned part here item inside

theorem exists_declaration_item (planned : ctx.plan = .ok m) {shape : Shape}
    (mem : shape ∈ ctx.service.shapes) {type : String}
    (typed : ctx.names.typeName shape.name = .ok type) {s : Structure}
    (kind : shape.kind = .struct s) :
    ∃ docs fields, (.declaration shape, [Emit.declaration ⟨docs, type, .struct fields⟩]) ∈
        parts ctx.service.shapes m ∧
      List.Forall₂ (fun m f => ctx.fieldDeclaration s m.1 m.2 = .ok f) s.members fields := by
  obtain ⟨plan, here, made⟩ := exists_mem_zip (plan_eq_ok planned).2.1 mem
  have plain : ¬isNativeString shape := by simp [isNativeString, Shape.primitive?, kind]
  have declared := declaration_eq_ok typed (shapePlan_eq_ok made).2.1
  rw [if_neg plain] at declared
  obtain ⟨body, made, found⟩ := declared
  obtain ⟨fields, rfl, own⟩ := typeBody_struct made kind
  exact ⟨Docs.ofOptional shape.documentation, fields,
    mem_parts here (by simp [shapeParts, found]), own⟩

section Members
variable (h : ctx.Checked) (planned : ctx.plan = .ok m) {shape : Shape}
  (mem : shape ∈ ctx.service.shapes) {s : Structure} (kind : shape.kind = .struct s)
include h planned mem kind

theorem exists_declared_fields : ∃ type item, ctx.names.typeName shape.name = .ok type ∧
    item.declared? = some type ∧ (.declaration shape, [item]) ∈ parts ctx.service.shapes m ∧
      ctx.fieldNames s.members = .ok item.fieldNames := by
  obtain ⟨type, typed⟩ := h.exists_ownType mem
  obtain ⟨docs, fields, here, declared⟩ := exists_declaration_item planned mem typed kind
  refine ⟨type, _, typed, Emit.declaration_declared _, here, ?_⟩
  rw [Emit.declaration_fieldNames]
  exact fieldNames_of_fieldDeclarations declared

theorem exists_decoded_members (decodes : ctx.hasDecoder shape.name) : ∃ name f,
    ctx.names.decoderName shape.name = .ok name ∧
      (.decoder shape, Emit.codecItems name f) ∈ parts ctx.service.shapes m ∧
      ctx.slotNames (bodyMembers s ++ headerMembers s) = .ok f.locals ∧
      ctx.wireNames (bodyMembers s) = .ok f.armTexts := by
  obtain ⟨type, typed⟩ := h.exists_ownType mem
  obtain ⟨plan, d, here, -, found, rfl, body⟩ := exists_plan_decoder planned mem typed decodes
  obtain ⟨plans, resolved, same⟩ := decoderBody_eq_ok (kind ▸ body)
  obtain ⟨f, items, locals, arms⟩ := Emit.decoder_defines m.protocol d
  rw [same] at locals arms
  refine ⟨Emit.decoderName d.type, f, Names.decoderName_eq_ok.mpr ⟨_, typed, rfl⟩,
    mem_parts here (by simp [shapeParts, found, items]), ?_, ?_⟩
  · rw [slotNames_of_memberPlans resolved, locals, Emit.decoderLocals]
  · rw [wireNames_of_memberPlans resolved, arms, Emit.decoderArms]

end Members

theorem namesMethods (h : ctx.Checked) (planned : ctx.plan = .ok m) : ctx.NamesMethods m := by
  obtain ⟨named, distinct⟩ := h.methodNames_distinct planned
  obtain ⟨type, methods, items, -, none, -, functions⟩ :=
    Emit.client_functions m.protocol m.client
  refine ⟨_, _, List.mem_append_right _ List.mem_cons_self, ?_, named, distinct⟩
  simp [items, none, functions, Emit.newMethod, Emit.regionMethod, clientMethods, Emit.method]

end Checked
end Context

/-- The module of a loaded service that passes every check defines nothing twice, and what it
defines for members and operations are their names, one for each. -/
theorem module_defines_once {text : String} {service : Service} {config : Config} {ctx : Context}
    (loaded : Service.load text = .ok service) (made : Context.new service config = .ok ctx)
    (valid : ctx.validate = .ok ()) :
    ∃ m, ctx.plan = .ok m ∧ DefinesOnce (Emit.items m) ∧
      (parts service.shapes m).flatMap (·.2) = Emit.items m ∧
      (∀ shape ∈ service.shapes, ∀ s, shape.kind = .struct s → ctx.NamesMembers m shape s) ∧
      ctx.NamesMethods m := by
  have h := Context.Checked.ofLoad loaded made valid
  obtain ⟨rfl, -⟩ := Context.new_eq_ok made
  obtain ⟨m, planned⟩ := h.exists_plan
  refine ⟨m, planned, h.definesOnce planned,
    parts_items (Context.plan_eq_ok planned).2.1.length_eq, fun shape mem s kind => ?_,
    h.namesMethods planned⟩
  exact ⟨h.exists_declared_fields planned mem kind, h.exists_decoded_members planned mem kind⟩

theorem nodes_module_defines_once : Service.load nodesText = .ok nodes ∧
    ∃ ctx, Context.new nodes {} = .ok ctx ∧ ctx.validate = .ok () ∧
      ∃ m, ctx.plan = .ok m ∧ DefinesOnce (Emit.items m) ∧
        (parts nodes.shapes m).flatMap (·.2) = Emit.items m ∧
        (∀ shape ∈ nodes.shapes, ∀ s, shape.kind = .struct s → ctx.NamesMembers m shape s) ∧
        ctx.NamesMethods m := by
  obtain ⟨ctx, made, valid⟩ := exists_context_nodes
  exact ⟨load_nodesText, ctx, made, valid, module_defines_once load_nodesText made valid⟩

end ServiceClient.Generator
