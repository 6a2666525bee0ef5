import ServiceClient.Proofs.Generator.DefinedNames
import ServiceClient.Proofs.Generator.EmittedFields

/-! Agreement of the code that is emitted for a shape. The type of a structure is declared with the
fields that its encoder writes and its decoder makes a value from, and a member is written under the
name that it is found under. -/

namespace ServiceClient.Generator
open ServiceClient.Code ServiceClient.Codec ServiceClient.Schema ServiceClient.Sequence

section Decoder
variable {d : Function} {protocol : Protocol} {type shape : String} {fields : List FieldRead}
  (body : d.body = Emit.decoderBody protocol type (.struct shape fields))
  (distinct : (fields.map (·.field)).Nodup)
include body distinct

/-- Only one variable has the name of a slot. -/
theorem declared_slot {f : FieldRead} (mem : f ∈ fields) :
    d.declared.filter (·.1 == f.slot) = [(f.slot, some (Emit.optional f.type))] := by
  obtain ⟨n, declared⟩ := Emit.declared_of_body body
  have other : (List.replicate n ("current_name", (none : Option Ty))).filter
      (·.1 == f.slot) = [] := by
    have apart : "current_name" ≠ f.slot := fun same => by
      have first := congrArg (fun s => s.toList.head?) same
      simp [FieldRead.slot] at first
    simp [apart]
  have slots : (((fields.filter (!·.isHeader) ++ fields.filter (·.isHeader)).map fun f =>
      (f.slot, some (Emit.optional f.type))).map (·.1)).Nodup := by
    rw [List.map_map]
    exact Context.slots_nodup distinct
  rw [declared, List.filter_append, List.filter_append, other, List.append_nil,
    ← List.filter_append, ← List.map_append]
  refine filter_eq_singleton slots (List.mem_map.mpr ⟨f, ?_, rfl⟩)
  exact (Emit.slotOrder_perm fields).mem_iff.mpr mem

/-- A slot is filled under the name of its member, and under no other. -/
theorem fieldsFound_of_body :
    d.fieldsFound = fields.map fun f => (f.field, f.wireName) := by
  have slots : (d.found.map (·.1)).Nodup := by
    rw [Emit.found_of_body body, List.map_map]
    exact Context.slots_nodup distinct
  have found : ∀ f ∈ fields, d.found.filter (·.1 == f.slot) = [(f.slot, f.wireName)] := by
    intro f mem
    refine filter_eq_singleton slots ?_
    rw [Emit.found_of_body body]
    exact List.mem_map.mpr ⟨f, (Emit.slotOrder_perm fields).mem_iff.mpr mem, rfl⟩
  rw [Function.fieldsFound, Emit.fieldValues_of_body body, Emit.literalValues, List.flatMap_map,
    List.map_eq_flatMap]
  refine List.flatMap_congr fun f mem => ?_
  simp [FieldValue.mentioned, Emit.fieldValue_nodes, found f mem, FieldValue.name]

end Decoder

/-- The field is declared as the codecs take the member. -/
structure DeclaredAs (f : FieldDeclaration) (p : MemberPlan) : Prop where
  name : f.name = p.field
  type : f.type = p.type
  required : f.required = p.required

section Structures
variable {docs : List String} {type shape : String} {fields : List FieldDeclaration}
  {plans : List MemberPlan} (declared : List.Forall₂ DeclaredAs fields plans)
include declared

theorem fieldNames_of_declared :
    (Emit.declaration ⟨docs, type, .struct fields⟩).fieldNames = plans.map (·.field) := by
  rw [Emit.declaration_fieldNames]
  exact (map_eq_map (declared.imp fun _ _ same => same.name)).symm

theorem optionalFields_of_declared :
    (Emit.declaration ⟨docs, type, .struct fields⟩).optionalFields =
      (plans.filter (!·.required)).map (·.field) := by
  have optional : List.Forall₂ DeclaredAs (fields.filter (!·.required))
      (plans.filter (!·.required)) :=
    List.rel_filter (fun f p same => by simp [same.required]) declared
  rw [map_eq_map (optional.imp fun _ _ same => same.name)]
  simp [Item.optionalFields, Emit.declaration_fields, List.filter_map, Function.comp_def]

theorem isUnitStruct_of_declared :
    (Emit.declaration ⟨docs, type, .struct fields⟩).isUnitStruct ↔ plans = [] := by
  rw [(Emit.declaration_fields docs type fields).2, ← List.length_eq_zero_iff,
    declared.length_eq, List.length_eq_zero_iff]

theorem writesFields_of_body {ctx : Context} {s : Structure} {e : Function}
    (body : e.body = Emit.encoderBody
      (.struct (plans.map fun p => ⟨p.field, p.required, ctx.writeTarget s p⟩))) :
    WritesFields (Emit.declaration ⟨docs, type, .struct fields⟩) e := by
  constructor
  · simp [Emit.fieldsRead_of_body body, fieldNames_of_declared declared]
  · simp [Emit.fieldsGuarded_of_body body, optionalFields_of_declared declared, List.filter_map,
      Function.comp_def]

theorem makesFields_of_body {protocol : Protocol} {d : Function}
    (distinct : ((plans.map Context.readField).map (·.field)).Nodup)
    (body : d.body = Emit.decoderBody protocol type
      (.struct shape (plans.map Context.readField))) :
    MakesFields type (Emit.declaration ⟨docs, type, .struct fields⟩) d := by
  have values := Emit.fieldValues_of_body body
  have yields := Emit.yielded_of_body body
  have unit : (Emit.declaration ⟨docs, type, .struct fields⟩).isUnitStruct ↔ plans = [] :=
    isUnitStruct_of_declared declared
  have named : (Emit.declaration ⟨docs, type, .struct fields⟩).fieldNames = plans.map (·.field) :=
    fieldNames_of_declared declared
  constructor
  case unit =>
    rw [unit, yields, Option.some_inj]
    cases plans <;> simp [Expr.var]
  case literal =>
    intro struct
    obtain ⟨p, rest, rfl⟩ : ∃ p rest, plans = p :: rest :=
      List.exists_cons_of_ne_nil fun none => by simp [unit.mpr none] at struct
    rw [Emit.made_of_body body, yields, values]
    exact ⟨rfl, rfl⟩
  case names =>
    simp [values, Emit.literalValues, named, FieldValue.name, Context.readField]
  case slots =>
    rw [(Emit.declaration_fields docs type fields).1, values, Emit.literalValues,
      List.forall₂_map_left_iff, List.forall₂_map_right_iff, List.forall₂_map_right_iff]
    refine ((List.forall₂_and_left _ _).mpr ⟨fun _ mem => mem, declared.flip⟩).flip.imp ?_
    rintro f p ⟨mem, same⟩
    refine ⟨(Context.readField p).slot, ?_, ?_⟩
    · simp [FieldValue.mentioned, Emit.fieldValue_nodes]
    · rw [declared_slot body distinct (List.mem_map_of_mem mem), Emit.memberType_held, same.type]
      rfl
  case apart =>
    have slots : d.fieldValues.flatMap FieldValue.mentioned =
        (plans.map Context.readField).map FieldRead.slot := by
      simp [values, Emit.literalValues, FieldValue.mentioned, Emit.fieldValue_nodes,
        List.flatMap_map, Function.comp_def, ← List.map_eq_flatMap]
    rw [slots]
    exact ((Emit.slotOrder_perm _).map FieldRead.slot).nodup_iff.mp (Context.slots_nodup distinct)
  case handedOn =>
    rw [Emit.handedOn_of_body body, optionalFields_of_declared declared]
    simp [List.filter_map, Function.comp_def, Context.readField]
  case found =>
    rw [fieldsFound_of_body body distinct, named]
    simp [Context.readField]

end Structures

namespace Context
variable (ctx : Context)

/-- The functions of the codecs of a shape, as far as the module has them. -/
structure HasCodecs (m : Module) (shape : Shape) (type : String)
    (encode decode : Option Function) : Prop where
  typed : ctx.names.typeName shape.name = .ok type
  encodes : encode.isSome = ctx.hasEncoder shape.name
  encoder : (.encoder shape, (encode.map (Emit.codecItems (Emit.encoderName type))).getD []) ∈
    parts ctx.service.shapes m
  decodes : decode.isSome = ctx.hasDecoder shape.name
  decoder : (.decoder shape, (decode.map (Emit.codecItems (Emit.decoderName type))).getD []) ∈
    parts ctx.service.shapes m

/-- Those in headers, and those that other encoders write below their names. -/
def namedMembers (s : Structure) : List (String × Member) :=
  s.members.filter fun m => m.2.location == .header || ctx.isNested s m

/-- The declared type of a structure has a field for each member, its codecs agree with it, and
those members that have names of their own are written under them. -/
structure StructureAgrees (m : Module) (shape : Shape) (s : Structure) : Prop where
  emitted : ∃ type item encode decode, ctx.HasCodecs m shape type encode decode ∧
    (.declaration shape, [item]) ∈ parts ctx.service.shapes m ∧
    ctx.fieldNames s.members = .ok item.fieldNames ∧
    CodecsAgree type item encode decode ∧
    ∀ e ∈ encode, ctx.fieldNames (ctx.namedMembers s) = .ok (e.fieldsWritten.map (·.1))

/-- The entries of a map are written under the names that they have in XML. -/
structure EntriesAgree (m : Module) (shape : Shape) (key value : Member) : Prop where
  emitted : ∃ type encode decode, ctx.HasCodecs m shape type encode decode ∧
    (∀ e ∈ encode, e.namesWritten = [.part (keyWireName key), .part (valueWireName value)]) ∧
    (m.protocol = .restXml → ∀ d ∈ decode,
      d.namesDecoded = [keyWireName key, valueWireName value])

/-- Whether the encoder writes a name for the member, that of a header or of a part. -/
def isNamed (s : Structure) (p : MemberPlan) : Bool :=
  p.isHeader || (p.member.location == .payload && !ctx.isRawPayload s p)

theorem wireName_writeTarget (s : Structure) (p : MemberPlan) :
    (ctx.writeTarget s p).wireName? =
      if ctx.isNamed s p then some (readField p).wireName else none := by
  cases location : p.member.location <;> cases raw : ctx.isRawPayload s p <;>
    simp [writeTarget, isNamed, location, raw, MemberPlan.isHeader, Target.wireName?,
      FieldRead.wireName, FieldRead.isHeader, readField]

/-- A member that the encoder writes a name for is written under the one that it is found under. -/
theorem fieldsWritten_of_body {s : Structure} {plans : List MemberPlan} {e : Function}
    (body : e.body = Emit.encoderBody
      (.struct (plans.map fun p => ⟨p.field, p.required, ctx.writeTarget s p⟩))) :
    e.fieldsWritten =
      (plans.filter (ctx.isNamed s)).map fun p => (p.field, (readField p).wireName) := by
  have each : ∀ p, (ctx.writeTarget s p).wireName?.map (p.field, ·) =
      if ctx.isNamed s p then some (p.field, (readField p).wireName) else none := by
    intro p
    rw [wireName_writeTarget]
    cases ctx.isNamed s p <;> rfl
  rw [Emit.fieldsWritten_of_body body, List.filterMap_map]
  simp only [Function.comp_def, each, ← List.filterMap_filter, List.filterMap_eq_map']

section Members
variable {ctx : Context} {s : Structure} {plans : List MemberPlan}
  (planned : ctx.memberPlans s = .ok plans)
include planned

/-- The declared fields of a structure are those that its codecs are made for. -/
theorem declaredAs_of_memberPlans {fields : List FieldDeclaration}
    (declared : List.Forall₂ (fun m f => ctx.fieldDeclaration s m.1 m.2 = .ok f) s.members fields) :
    List.Forall₂ DeclaredAs fields plans := by
  refine forall₂_of_common (fun m f p own made => ?_) declared (mapM_eq_ok.mp planned)
  obtain ⟨named, typed, needed⟩ := fieldDeclaration_eq_ok own
  obtain ⟨-, -, -, typed', needed'⟩ := memberPlan_eq_ok made
  exact ⟨Except.ok.inj (named.symm.trans (names_of_memberPlan made).1),
    Except.ok.inj (typed.symm.trans typed'), needed.trans needed'.symm⟩

theorem namedMembers_of_memberPlans :
    ctx.fieldNames (ctx.namedMembers s) =
      .ok ((plans.filter (ctx.isNamed s)).map (·.field)) := by
  rw [fieldNames, mapM_eq_ok, List.forall₂_map_right_iff, namedMembers]
  have named : List.Forall₂ (fun m p => ctx.memberPlan s m.1 m.2 = .ok p)
      (ctx.namedMembers s) (plans.filter (ctx.isNamed s)) := by
    refine List.rel_filter (fun m p made => ?_) (mapM_eq_ok.mp planned)
    obtain ⟨-, same, -⟩ := memberPlan_eq_ok made
    have nested := isNested_memberPlan made
    rw [same] at nested
    simp only [isNamed, MemberPlan.isHeader, same, nested]
  exact named.imp fun m p made => (names_of_memberPlan made).1

end Members

namespace Checked
variable {ctx : Context} {m : Module}

section Emitted
variable (planned : ctx.plan = .ok m) {shape : Shape} (mem : shape ∈ ctx.service.shapes)
  {type : String} (typed : ctx.names.typeName shape.name = .ok type)
include planned mem typed

theorem exists_encode : ∃ encode : Option Function,
    encode.isSome = ctx.hasEncoder shape.name ∧
    (.encoder shape, (encode.map (Emit.codecItems (Emit.encoderName type))).getD []) ∈
      parts ctx.service.shapes m ∧
    ∀ e ∈ encode, ∃ body, ctx.encoderBody shape.kind = .ok body ∧
      e.body = Emit.encoderBody body := by
  by_cases encodes : ctx.hasEncoder shape.name
  · obtain ⟨s, e, here, -, found, rfl, body⟩ := exists_plan_encoder planned mem typed encodes
    obtain ⟨f, items, own⟩ : ∃ f : Function,
        Emit.encoder e = Emit.codecItems (Emit.encoderName e.type) f ∧
          f.body = Emit.encoderBody e.body := ⟨_, rfl, rfl⟩
    refine ⟨some f, by simp [encodes], mem_parts here ?_, ?_⟩
    · simp [shapeParts, found, items]
    · rintro _ ⟨⟩
      exact ⟨e.body, body, own⟩
  · obtain ⟨s, here, made⟩ := exists_mem_zip (plan_eq_ok planned).2.1 mem
    have none := (shapePlan_eq_ok made).2.2
    rw [if_neg encodes] at none
    exact ⟨.none, by simp [encodes], mem_parts here (by simp [shapeParts, none]), by simp⟩

theorem exists_decode : ∃ decode : Option Function,
    decode.isSome = ctx.hasDecoder shape.name ∧
    (.decoder shape, (decode.map (Emit.codecItems (Emit.decoderName type))).getD []) ∈
      parts ctx.service.shapes m ∧
    ∀ d ∈ decode, ∃ body, ctx.decoderBody shape.name shape.kind = .ok body ∧
      d.body = Emit.decoderBody m.protocol type body := by
  by_cases decodes : ctx.hasDecoder shape.name
  · obtain ⟨s, d, here, -, found, rfl, body⟩ := exists_plan_decoder planned mem typed decodes
    obtain ⟨f, items, own⟩ := Emit.decoder_eq_decoderBody m.protocol d
    refine ⟨some f, by simp [decodes], mem_parts here ?_, ?_⟩
    · simp [shapeParts, found, items]
    · rintro _ ⟨⟩
      exact ⟨d.body, body, own⟩
  · obtain ⟨s, here, made⟩ := exists_mem_zip (plan_eq_ok planned).2.1 mem
    have none := (shapePlan_eq_ok made).1
    rw [if_neg decodes] at none
    exact ⟨.none, by simp [decodes], mem_parts here (by simp [shapeParts, none]), by simp⟩

end Emitted

section Shapes
variable (h : ctx.Checked) (planned : ctx.plan = .ok m) {shape : Shape}
  (mem : shape ∈ ctx.service.shapes)
include h planned mem

theorem structureAgrees {s : Structure} (kind : shape.kind = .struct s) :
    ctx.StructureAgrees m shape s := by
  obtain ⟨type, typed⟩ := h.exists_ownType mem
  obtain ⟨plans, resolved⟩ := h.exists_memberPlans mem kind
  obtain ⟨encode, encodes, encoder, encoded⟩ := exists_encode planned mem typed
  obtain ⟨decode, decodes, decoder, decoded⟩ := exists_decode planned mem typed
  obtain ⟨docs, fields, declaration, declared⟩ := exists_declaration_item planned mem typed kind
  have alike := declaredAs_of_memberPlans resolved declared
  have distinct := h.fields_nodup mem kind resolved
  have named : (Emit.declaration ⟨docs, type, .struct fields⟩).fieldNames = plans.map (·.field) :=
    fieldNames_of_declared alike
  have encodeBody : ∀ e ∈ encode, e.body = Emit.encoderBody
      (.struct (plans.map fun p => ⟨p.field, p.required, ctx.writeTarget s p⟩)) := by
    intro e here
    obtain ⟨body, made, own⟩ := encoded e here
    obtain ⟨plans', resolved', rfl⟩ := encoderBody_eq_ok (kind ▸ made)
    cases resolved.symm.trans resolved'
    exact own
  have decodeBody : ∀ d ∈ decode, d.body = Emit.decoderBody m.protocol type
      (.struct shape.name (plans.map readField)) := by
    intro d here
    obtain ⟨body, made, own⟩ := decoded d here
    obtain ⟨plans', resolved', rfl⟩ := decoderBody_eq_ok (kind ▸ made)
    cases resolved.symm.trans resolved'
    exact own
  refine ⟨type, _, encode, decode, ⟨typed, encodes, encoder, decodes, decoder⟩, declaration, ?_,
    ⟨Emit.declaration_declared _, ?_, fun e here => ?_, fun d here => ?_, fun e here d there => ?_⟩,
    fun e here => ?_⟩
  · rw [Emit.declaration_fieldNames]
    exact fieldNames_of_fieldDeclarations declared
  · simpa [named, Function.comp_def, readField] using distinct
  · exact writesFields_of_body alike (encodeBody e here)
  · exact makesFields_of_body alike distinct (decodeBody d here)
  · have found := fieldsFound_of_body (decodeBody d there) distinct
    rw [fieldsWritten_of_body ctx (encodeBody e here), found, List.map_map]
    exact List.filter_sublist.map _
  · rw [namedMembers_of_memberPlans resolved, fieldsWritten_of_body ctx (encodeBody e here)]
    simp

theorem entriesAgree {key value : Member} (kind : shape.kind = .map key value) :
    ctx.EntriesAgree m shape key value := by
  obtain ⟨type, typed⟩ := h.exists_ownType mem
  obtain ⟨encode, encodes, encoder, encoded⟩ := exists_encode planned mem typed
  obtain ⟨decode, decodes, decoder, decoded⟩ := exists_decode planned mem typed
  refine ⟨type, encode, decode, ⟨typed, encodes, encoder, decodes, decoder⟩, fun e here => ?_,
    fun xml d here => ?_⟩
  · obtain ⟨body, made, own⟩ := encoded e here
    obtain ⟨keyType, valueType, -, -, rfl⟩ := encoderBody_eq_ok (kind ▸ made)
    exact Emit.namesWritten_of_body own
  · obtain ⟨body, made, own⟩ := decoded d here
    obtain ⟨keyType, valueType, -, -, rfl⟩ := decoderBody_eq_ok (kind ▸ made)
    rw [xml] at own
    exact Emit.namesDecoded_of_body own

end Shapes
end Checked
end Context

/-- In the module of a checked service, the declaration and the codecs of every structure agree on
its fields, and the codecs of every map on the names in its entries. -/
theorem declarations_and_codecs_agree {text : String} {service : Service} {config : Config}
    {ctx : Context} (loaded : Service.load text = .ok service)
    (made : Context.new service config = .ok ctx) (valid : ctx.validate = .ok ()) :
    ∃ m, ctx.plan = .ok m ∧ (parts service.shapes m).flatMap (·.2) = Emit.items m ∧
      (∀ shape ∈ service.shapes, ∀ s, shape.kind = .struct s → ctx.StructureAgrees m shape s) ∧
      ∀ shape ∈ service.shapes, ∀ key value, shape.kind = .map key value →
        ctx.EntriesAgree m shape key value := by
  have h := Context.Checked.ofLoad loaded made valid
  obtain ⟨rfl, -⟩ := Context.new_eq_ok made
  obtain ⟨m, planned⟩ := h.exists_plan
  exact ⟨m, planned, parts_items (Context.plan_eq_ok planned).2.1.length_eq,
    fun shape mem s kind => h.structureAgrees planned mem kind,
    fun shape mem key value kind => h.entriesAgree planned mem kind⟩

theorem nodes_codecs_agree : Service.load nodesText = .ok nodes ∧
    ∃ ctx, Context.new nodes {} = .ok ctx ∧ ctx.validate = .ok () ∧
      ∃ m, ctx.plan = .ok m ∧
        (∀ shape ∈ nodes.shapes, ∀ s, shape.kind = .struct s → ctx.StructureAgrees m shape s) ∧
        ∀ shape ∈ nodes.shapes, ∀ key value, shape.kind = .map key value →
          ctx.EntriesAgree m shape key value := by
  obtain ⟨ctx, made, valid⟩ := exists_context_nodes
  obtain ⟨m, planned, -, agree⟩ := declarations_and_codecs_agree load_nodesText made valid
  exact ⟨load_nodesText, ctx, made, valid, m, planned, agree⟩

end ServiceClient.Generator
