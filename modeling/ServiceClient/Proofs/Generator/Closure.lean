import ServiceClient.Proofs.Generator.Parts

/-! Closed modules: what each part uses is, name by name, what the schema refers to at its places. A
used name belongs to the prelude, is the text type, or is declared by exactly one part, the one made
for the shape referred to. -/

namespace ServiceClient.Generator
open ServiceClient.Code ServiceClient.Codec ServiceClient.Schema ServiceClient.Sequence

/-- A name of the prelude or of the language, or the type, encoder or decoder of a shape. -/
inductive Reference where
  | builtin (name : String)
  | type (shape : String)
  | encoder (shape : String)
  | decoder (shape : String)

/-! What the schema refers to at the places of each part, in the order in which they are used. -/

def primitiveNames : PrimitiveKind → List String
  | .string | .timestamp => ["String"]
  | .integer => ["i32"]
  | .long => ["i64"]
  | .float => ["f32"]
  | .double => ["f64"]
  | .blob => ["Vec", "u8"]
  | .boolean => ["bool"]

def memberReferences (s : Structure) (name : String) (m : Member) : List Reference :=
  if s.isRequired name then [.type m.shape] else [.builtin "Option", .type m.shape]

def declarationReferences (shape : Shape) : List Reference :=
  match shape.kind with
  | .primitive kind => (primitiveNames kind).map .builtin
  | .struct s => s.members.flatMap fun m => memberReferences s m.1 m.2
  | .list element => [.builtin "Vec", .type element.shape]
  | .map key value => [.builtin "BTreeMap", .type key.shape, .type value.shape]

/-- Members outside the body are not decoded from it. -/
def decodedReferences (shape : Shape) : List Reference :=
  match shape.kind with
  | .primitive _ => [.type shape.name]
  | .struct s =>
    let read := s.members.filter (·.2.location != .header)
    read.flatMap (fun m => [.builtin "Option", .type m.2.shape]) ++
      read.map (fun m => .decoder m.2.shape) ++
      (s.members.filter (·.2.location == .header)).flatMap fun m =>
        [.builtin "Option", .type m.2.shape, .type m.2.shape]
  | .list element => [.decoder element.shape]
  | .map key value => [.decoder key.shape, .decoder value.shape]

def operationReferences (o : Operation) : List Reference :=
  (o.input.map Reference.type).toList ++ [.builtin "Result"] ++
    (o.output.map Reference.type).toList ++ [.builtin "OperationError"] ++
    (o.input.map Reference.encoder).toList ++ (o.output.map Reference.decoder).toList

namespace Context
variable (ctx : Context)

/-- Whether the member is the payload of the structure and travels as the raw body. -/
def isRawMember (s : Structure) (name : String) (m : Member) : Bool :=
  ctx.protocol.rawPayload && s.payload == some name &&
    (ctx.service.shape? m.shape).any fun target =>
      target.primitive? == some .blob || target.primitive? == some .string

def isNested (s : Structure) (m : String × Member) : Bool :=
  m.2.location == .payload && !ctx.isRawMember s m.1 m.2

/-- Only members in the body have encoders called for them, and the raw payload has not. -/
def encodedReferences (shape : Shape) : List Reference :=
  match shape.kind with
  | .primitive _ => []
  | .struct s => (s.members.filter (ctx.isNested s)).map fun m => .encoder m.2.shape
  | .list element => [.encoder element.shape]
  | .map key value => [.encoder key.shape, .encoder value.shape]

def partReferences : Part → List Reference
  | .prelude => []
  | .decoder shape =>
    if ctx.hasDecoder shape.name then
      ["str", "HeaderMap", Emit.inputType ctx.protocol, "Result"].map .builtin ++
        [.type shape.name, .builtin "ParseError"] ++ decodedReferences shape
    else []
  | .declaration shape => if isNativeString shape then [] else declarationReferences shape
  | .encoder shape =>
    if ctx.hasEncoder shape.name then
      [.builtin "ServiceRequest", .builtin "str", .type shape.name] ++ ctx.encodedReferences shape
    else []
  | .client =>
    ["D", "String", "str", "D", "String", "Self", "str"].map .builtin ++
      ctx.service.operations.flatMap operationReferences

/-- The used name stands for what is referred to. -/
inductive Denotes (parts : List (Part × List Item)) : Use → Reference → Prop
  | builtin (name : String) : Denotes parts (.type name) (.builtin name)
  | text {shape : String} {target : Shape} (found : ctx.service.shape? shape = some target)
      (native : isNativeString target) : Denotes parts (.type "String") (.type shape)
  | type {shape name : String} {target : Shape} (found : ctx.service.shape? shape = some target)
      (declared : Declares parts name (.declaration target)) :
      Denotes parts (.type name) (.type shape)
  | encoder {shape name : String} {target : Shape} {f : Function}
      (found : ctx.service.shape? shape = some target)
      (declared : Declares parts name (.encoder target))
      (emitted : (.encoder target, Emit.codecItems name f) ∈ parts) (named : f.name = "encode") :
      Denotes parts (.codec name "encode") (.encoder shape)
  | decoder {shape name : String} {target : Shape} {f : Function}
      (found : ctx.service.shape? shape = some target)
      (declared : Declares parts name (.decoder target))
      (emitted : (.decoder target, Emit.codecItems name f) ∈ parts) (named : f.name = "decode") :
      Denotes parts (.codec name "decode") (.decoder shape)

/-- The module is its parts, and what each of them uses is what the schema refers to there. -/
structure Closed (m : Module) : Prop where
  items : (parts ctx.service.shapes m).flatMap (·.2) = Emit.items m
  denotes : ∀ part ∈ parts ctx.service.shapes m,
    List.Forall₂ (ctx.Denotes (parts ctx.service.shapes m)) (part.2.flatMap Item.uses)
      (ctx.partReferences part.1)

theorem memberPlan_eq_ok {ctx : Context} {s : Structure} {name : String} {m : Member}
    {p : MemberPlan} (planned : ctx.memberPlan s name m = .ok p) :
    p.name = name ∧ p.member = m ∧ ctx.service.shape? m.shape = some p.target ∧
      ctx.names.typeName m.shape = .ok p.type ∧ p.required = s.isRequired name := by
  simp only [memberPlan, bind_eq_ok] at planned
  obtain ⟨field, -, target, found, wire, -, type, typed, made⟩ := planned
  cases made
  exact ⟨rfl, rfl, shape_eq_ok.mp found, typed, rfl⟩

theorem names_of_memberPlan {ctx : Context} {s : Structure} {name : String} {m : Member}
    {p : MemberPlan} (planned : ctx.memberPlan s name m = .ok p) :
    ctx.names.snakeName name = .ok p.field ∧ ctx.wireName name m = .ok p.wire := by
  simp only [memberPlan, bind_eq_ok] at planned
  obtain ⟨field, named, target, -, wire, wired, type, -, ⟨⟩⟩ := planned
  exact ⟨named, wired⟩

theorem fieldDeclaration_eq_ok {ctx : Context} {s : Structure} {name : String} {m : Member}
    {f : FieldDeclaration} (made : ctx.fieldDeclaration s name m = .ok f) :
    ctx.names.snakeName name = .ok f.name ∧ ctx.names.typeName m.shape = .ok f.type ∧
      f.required = s.isRequired name := by
  simp only [fieldDeclaration, bind_eq_ok] at made
  obtain ⟨field, named, type, typed, ⟨⟩⟩ := made
  exact ⟨named, typed, rfl⟩

/-- A member plan is nested exactly when its member is. -/
theorem isNested_memberPlan {ctx : Context} {s : Structure} {name : String} {m : Member}
    {p : MemberPlan} (planned : ctx.memberPlan s name m = .ok p) :
    (p.member.location == .payload && !ctx.isRawPayload s p) = ctx.isNested s (name, m) := by
  obtain ⟨rfl, rfl, found, -, -⟩ := memberPlan_eq_ok planned
  simp [isNested, isRawMember, isRawPayload, found]

theorem needCodec_eq_ok {ctx : Context} {codec : Codec} {owner referenced : String} :
    ctx.needCodec codec owner referenced = .ok () ↔
      match codec with
      | .encoder => ctx.hasEncoder referenced
      | .decoder => ctx.hasDecoder referenced := by
  cases codec <;> simp [needCodec]

/-- The decoder of the structure reads its member so. -/
def ReadAs (ctx : Context) (s : Structure) (f : FieldRead) (m : String × Member) : Prop :=
  m ∈ s.members ∧ ∃ p, ctx.memberPlan s m.1 m.2 = .ok p ∧ f = readField p

theorem ReadAs.isHeader {ctx : Context} {s : Structure} {f : FieldRead} {m : String × Member}
    (h : ctx.ReadAs s f m) : f.isHeader = (m.2.location == .header) := by
  obtain ⟨-, p, made, rfl⟩ := h
  obtain ⟨-, same, -⟩ := memberPlan_eq_ok made
  rw [← same, FieldRead.isHeader, readField]
  cases location : p.member.location <;> simp [MemberPlan.isHeader, location]

theorem ReadAs.names {ctx : Context} {s : Structure} {f : FieldRead} {m : String × Member}
    (h : ctx.ReadAs s f m) : ctx.names.snakeName m.1 = .ok f.field ∧
      ctx.wireName m.1 m.2 = .ok f.wire := by
  obtain ⟨-, p, made, rfl⟩ := h
  exact names_of_memberPlan made

theorem ReadAs.exists_target {ctx : Context} {s : Structure} {f : FieldRead} {m : String × Member}
    (h : ctx.ReadAs s f m) : ∃ target, ctx.service.shape? m.2.shape = some target ∧
      ctx.names.typeName m.2.shape = .ok f.type := by
  obtain ⟨-, p, made, rfl⟩ := h
  obtain ⟨-, -, found, typed, -⟩ := memberPlan_eq_ok made
  exact ⟨p.target, found, typed⟩

/-- A structure's decoder reads its members one by one, those in the body and those in headers. -/
theorem readAs_of_memberPlans {ctx : Context} {s : Structure} {plans : List MemberPlan}
    (planned : ctx.memberPlans s = .ok plans) :
    List.Forall₂ (ctx.ReadAs s) (plans.map readField) s.members ∧
      List.Forall₂ (ctx.ReadAs s) ((plans.map readField).filter (!·.isHeader))
        (s.members.filter (·.2.location != .header)) ∧
      List.Forall₂ (ctx.ReadAs s) ((plans.map readField).filter (·.isHeader))
        (s.members.filter (·.2.location == .header)) := by
  have alike : List.Forall₂ (ctx.ReadAs s) (plans.map readField) s.members := by
    rw [List.forall₂_map_left_iff]
    refine ((List.forall₂_and_left _ _).mpr ⟨fun _ mem => mem, mapM_eq_ok.mp planned⟩).flip.imp ?_
    exact fun p n made => ⟨made.1, p, made.2, rfl⟩
  refine ⟨alike, ?_, ?_⟩
  · exact List.rel_filter (fun f n same => by simp [same.isHeader]) alike
  · exact List.rel_filter (fun f n same => by simp [same.isHeader]) alike

/-- The encoders that a structure's encoder calls are those of its nested members. -/
theorem encoded_struct (ctx : Context) (s : Structure) (plans : List MemberPlan) :
    Emit.encoded (.struct (plans.map fun p => ⟨p.field, p.required, ctx.writeTarget s p⟩)) =
      (plans.filter fun p => p.member.location == .payload && !ctx.isRawPayload s p).map
        (·.type) := by
  rw [Emit.encoded, List.filterMap_map]
  induction plans with
  | nil => rfl
  | cons p plans ih =>
    rw [List.filterMap_cons, List.filter_cons, ih]
    cases location : p.member.location <;> cases raw : ctx.isRawPayload s p <;>
      simp [writeTarget, location, raw]

namespace Checked
variable {ctx : Context} {m : Module}

section Dependencies
variable (h : ctx.Checked) {shape : Shape} (mem : shape ∈ ctx.service.shapes)
include h mem

theorem exists_encoderDependencies (encodes : ctx.hasEncoder shape.name) :
    ∃ dependencies, ctx.encoderDependencies shape = .ok dependencies ∧
      ∀ {part referenced : String}, (part, referenced) ∈ dependencies →
        ctx.hasEncoder referenced := by
  have checked := (Context.validate_eq_ok.mp h.valid).2.2.2.2.1 shape mem
  simp only [checkShapeCodecs, encodes, if_true, bind_eq_ok] at checked
  obtain ⟨dependencies, listed, ⟨⟩, all, -⟩ := checked
  refine ⟨dependencies, listed, fun {part referenced} here => ?_⟩
  exact needCodec_eq_ok.mp (forM_eq_ok.mp all (part, referenced) here)

theorem hasDecoder_of_dependency (decodes : ctx.hasDecoder shape.name) {part referenced : String}
    (here : (part, referenced) ∈ decoderDependencies shape) : ctx.hasDecoder referenced := by
  have checked := (Context.validate_eq_ok.mp h.valid).2.2.2.2.1 shape mem
  simp only [checkShapeCodecs, decodes, if_true] at checked
  split at checked
  · simp only [bind_eq_ok] at checked
    obtain ⟨-, -, ⟨⟩, -, all⟩ := checked
    exact needCodec_eq_ok.mp (forM_eq_ok.mp all (part, referenced) here)
  · exact needCodec_eq_ok.mp (forM_eq_ok.mp checked (part, referenced) here)

end Dependencies
section Names
variable (h : ctx.Checked) (planned : ctx.plan = .ok m) {name : String} {target : Shape}
  (found : ctx.service.shape? name = some target) {type : String}
  (typed : ctx.names.typeName name = .ok type)
include h planned found typed

theorem denotes_type :
    ctx.Denotes (parts ctx.service.shapes m) (.type type) (.type name) := by
  obtain ⟨mem, rfl⟩ := Service.shape?_eq_some found
  by_cases native : isNativeString target
  · rw [Names.typeName_native (h.names_service ▸ found) native] at typed
    cases typed
    exact .text found native
  · exact .type found (h.declares_type planned mem typed native)

theorem denotes_encode (encodes : ctx.hasEncoder name) :
    ctx.Denotes (parts ctx.service.shapes m) (Emit.encodeUse type) (.encoder name) := by
  obtain ⟨mem, rfl⟩ := Service.shape?_eq_some found
  obtain ⟨f, emitted, named⟩ := exists_encoder_part planned mem typed encodes
  exact .encoder found (h.declares_encoder planned mem typed encodes) emitted named

theorem denotes_decode (decodes : ctx.hasDecoder name) :
    ctx.Denotes (parts ctx.service.shapes m) (Emit.decodeUse type) (.decoder name) := by
  obtain ⟨mem, rfl⟩ := Service.shape?_eq_some found
  obtain ⟨f, emitted, named⟩ := exists_decoder_part planned mem typed decodes
  exact .decoder found (h.declares_decoder planned mem typed decodes) emitted named

/-- An optional slot or field. -/
theorem denotes_optional : List.Forall₂ (ctx.Denotes (parts ctx.service.shapes m))
    (Emit.optionalUses type) [.builtin "Option", .type name] :=
  .cons (.builtin _) (.cons (h.denotes_type planned found typed) .nil)

end Names

section Shapes
variable (h : ctx.Checked) (planned : ctx.plan = .ok m) {shape : Shape}
  (mem : shape ∈ ctx.service.shapes)
include h planned mem

omit mem in
/-- The encoders that the encoder of a structure calls are those of the members that it nests. -/
theorem denotes_encoded_struct {s : Structure} (kind : shape.kind = .struct s)
    {plans : List MemberPlan} (resolved : ctx.memberPlans s = .ok plans)
    {dependencies : List (String × String)}
    (listed : ctx.encoderDependencies shape = .ok dependencies)
    (encoded : ∀ {part referenced : String}, (part, referenced) ∈ dependencies →
      ctx.hasEncoder referenced) :
    List.Forall₂ (ctx.Denotes (parts ctx.service.shapes m))
      ((Emit.encoded (.struct (plans.map fun p =>
        ⟨p.field, p.required, ctx.writeTarget s p⟩))).map Emit.encodeUse)
      (ctx.encodedReferences shape) := by
  simp only [encoderDependencies, kind, resolved, bind, Except.bind] at listed
  cases listed
  rw [encodedReferences, encoded_struct]
  simp only [kind, List.map_map, List.forall₂_map_left_iff, List.forall₂_map_right_iff]
  have alike : List.Forall₂ (fun p n => ctx.memberPlan s n.1 n.2 = .ok p)
      (plans.filter fun p => p.member.location == .payload && !ctx.isRawPayload s p)
      (s.members.filter (ctx.isNested s)) := by
    refine List.rel_filter ?_ (mapM_eq_ok.mp resolved).flip
    intro p n made
    exact Bool.eq_iff_iff.mp (isNested_memberPlan made)
  refine ((List.forall₂_and_left _ _).mpr ⟨fun _ mem => mem, alike⟩).imp ?_
  rintro p ⟨name, member⟩ ⟨here, made⟩
  obtain ⟨rfl, rfl, found, typed, -⟩ := memberPlan_eq_ok made
  exact h.denotes_encode planned found typed (encoded (List.mem_map.mpr ⟨p, here, rfl⟩))

/-- The encoders that an encoder calls are those of the parts that it nests. -/
theorem denotes_encoded (encodes : ctx.hasEncoder shape.name) {body : EncoderBody}
    (made : ctx.encoderBody shape.kind = .ok body) :
    List.Forall₂ (ctx.Denotes (parts ctx.service.shapes m))
      ((Emit.encoded body).map Emit.encodeUse) (ctx.encodedReferences shape) := by
  obtain ⟨dependencies, listed, encoded⟩ := h.exists_encoderDependencies mem encodes
  have nested : ∀ (part : String) {member : Member} {type : String},
      (part, member) ∈ shape.parts → ctx.names.typeName member.shape = .ok type →
      (part, member.shape) ∈ dependencies →
      ctx.Denotes (parts ctx.service.shapes m) (Emit.encodeUse type) (.encoder member.shape) := by
    intro part member type here typed listed
    obtain ⟨target, found⟩ := Service.exists_shape_of_part h.references mem here
    exact h.denotes_encode planned found typed (encoded listed)
  have made := encoderBody_eq_ok made
  cases kind : shape.kind with
  | primitive k =>
    simp only [kind] at made
    subst made
    simp [encodedReferences, kind, Emit.encoded]
  | list element =>
    simp only [kind] at made
    obtain ⟨type, typed, rfl⟩ := made
    simp only [encoderDependencies, kind, Shape.parts] at listed nested
    cases listed
    simp only [encodedReferences, kind, Emit.encoded, List.map_cons, List.map_nil]
    exact .cons (nested "member" (by simp) typed (by simp)) .nil
  | map key value =>
    simp only [kind] at made
    obtain ⟨keyType, valueType, keyTyped, valueTyped, rfl⟩ := made
    simp only [encoderDependencies, kind, Shape.parts] at listed nested
    cases listed
    simp only [encodedReferences, kind, Emit.encoded, List.map_cons, List.map_nil]
    exact .cons (nested "key" (by simp) keyTyped (by simp))
      (.cons (nested "value" (by simp) valueTyped (by simp)) .nil)
  | struct s =>
    simp only [kind] at made
    obtain ⟨plans, resolved, rfl⟩ := made
    exact h.denotes_encoded_struct planned kind resolved listed encoded

omit mem in
/-- The decoders that the decoder of a structure calls, and the types of its slots, are those of its
members. -/
theorem denotes_decoded_struct {s : Structure} (kind : shape.kind = .struct s)
    {plans : List MemberPlan} (resolved : ctx.memberPlans s = .ok plans)
    (decodes : ∀ part ∈ s.members.filter (·.2.location != .header),
      ctx.hasDecoder part.2.shape) (type name : String) :
    List.Forall₂ (ctx.Denotes (parts ctx.service.shapes m))
      (Emit.decoderBodyUses type (.struct name (plans.map readField)))
      (decodedReferences shape) := by
  obtain ⟨-, read, headers⟩ := readAs_of_memberPlans resolved
  simp only [Emit.decoderBodyUses, decodedReferences, kind]
  refine List.rel_append (List.rel_append ?_ ?_) ?_
  · refine List.rel_flatMap read fun f n same => ?_
    obtain ⟨target, found, typed⟩ := same.exists_target
    exact h.denotes_optional planned found typed
  · rw [List.forall₂_map_left_iff, List.forall₂_map_right_iff]
    refine ((List.forall₂_and_left _ _).mpr ⟨fun _ mem => mem, read⟩).imp ?_
    rintro f ⟨name, member⟩ ⟨inside, same⟩
    obtain ⟨target, found, typed⟩ := same.exists_target
    have body := (List.mem_filter.mp inside).2
    rw [same.isHeader] at body
    exact h.denotes_decode planned found typed
      (decodes _ (List.mem_filter.mpr ⟨same.1, body⟩))
  · refine List.rel_flatMap headers fun f n same => ?_
    obtain ⟨target, found, typed⟩ := same.exists_target
    exact List.rel_append (h.denotes_optional planned found typed)
      (.cons (h.denotes_type planned found typed) .nil)

/-- The decoders that a decoder calls, and the types of its slots, are those of the members that it
reads. -/
theorem denotes_decoded (decodes : ctx.hasDecoder shape.name) {type : String}
    (own : ctx.names.typeName shape.name = .ok type) {body : DecoderBody}
    (made : ctx.decoderBody shape.name shape.kind = .ok body) :
    List.Forall₂ (ctx.Denotes (parts ctx.service.shapes m)) (Emit.decoderBodyUses type body)
      (decodedReferences shape) := by
  have decoded : ∀ (part : String) {member : Member} {type : String},
      (part, member) ∈ shape.parts → ctx.names.typeName member.shape = .ok type →
      (part, member.shape) ∈ decoderDependencies shape →
      ctx.Denotes (parts ctx.service.shapes m) (Emit.decodeUse type) (.decoder member.shape) := by
    intro part member type here typed listed
    obtain ⟨target, found⟩ := Service.exists_shape_of_part h.references mem here
    exact h.denotes_decode planned found typed (h.hasDecoder_of_dependency mem decodes listed)
  have made := decoderBody_eq_ok made
  cases kind : shape.kind with
  | primitive k =>
    simp only [kind] at made
    subst made
    obtain ⟨target, found⟩ := Service.exists_shape_of_mem mem
    simp only [decodedReferences, kind, Emit.decoderBodyUses]
    exact .cons (h.denotes_type planned found own) .nil
  | list element =>
    simp only [kind] at made
    obtain ⟨type, typed, rfl⟩ := made
    simp only [decoderDependencies, kind, Shape.parts] at decoded
    simp only [decodedReferences, kind, Emit.decoderBodyUses]
    exact .cons (decoded "member" (by simp) typed (by simp)) .nil
  | map key value =>
    simp only [kind] at made
    obtain ⟨keyType, valueType, keyTyped, valueTyped, rfl⟩ := made
    simp only [decoderDependencies, kind, Shape.parts] at decoded
    simp only [decodedReferences, kind, Emit.decoderBodyUses]
    exact .cons (decoded "key" (by simp) keyTyped (by simp))
      (.cons (decoded "value" (by simp) valueTyped (by simp)) .nil)
  | struct s =>
    simp only [kind] at made
    obtain ⟨plans, resolved, rfl⟩ := made
    refine h.denotes_decoded_struct planned kind resolved (fun part inside => ?_) type shape.name
    have listed : (part.1, part.2.shape) ∈ decoderDependencies shape := by
      rw [decoderDependencies, kind]
      exact List.mem_map_of_mem inside
    exact h.hasDecoder_of_dependency mem decodes listed

omit mem in
theorem denotes_field {s : Structure} {name : String} {member : Member} {d : FieldDeclaration}
    {target : Shape} (found : ctx.service.shape? member.shape = some target)
    (made : ctx.fieldDeclaration s name member = .ok d) :
    List.Forall₂ (ctx.Denotes (parts ctx.service.shapes m)) (Emit.fieldUses d.type d.required)
      (memberReferences s name member) := by
  obtain ⟨-, typed, needed⟩ := fieldDeclaration_eq_ok made
  rw [Emit.fieldUses, memberReferences, needed]
  split
  · exact .cons (h.denotes_type planned found typed) .nil
  · exact h.denotes_optional planned found typed

omit h planned mem in
theorem denotes_primitive (kind : PrimitiveKind) :
    List.Forall₂ (ctx.Denotes (parts ctx.service.shapes m)) (Emit.primitiveUses kind)
      ((primitiveNames kind).map .builtin) := by
  cases kind <;> simp [Emit.primitiveUses, Emit.primitiveType, primitiveNames, Denotes.builtin]

/-- The types that a declaration mentions are those of its fields or parts. -/
theorem denotes_declared {body : TypeBody} (made : ctx.typeBody shape = .ok body) :
    List.Forall₂ (ctx.Denotes (parts ctx.service.shapes m)) (Emit.typeBodyUses body)
      (declarationReferences shape) := by
  have part : ∀ (part : String) {member : Member} {type : String},
      (part, member) ∈ shape.parts → ctx.names.typeName member.shape = .ok type →
      ctx.Denotes (parts ctx.service.shapes m) (.type type) (.type member.shape) := by
    intro part member type here typed
    obtain ⟨target, found⟩ := Service.exists_shape_of_part h.references mem here
    exact h.denotes_type planned found typed
  have made := typeBody_eq_ok made
  cases kind : shape.kind with
  | primitive k =>
    simp only [kind] at made
    subst made
    simp only [Emit.typeBodyUses, Emit.aliasUses, declarationReferences, kind]
    exact denotes_primitive k
  | list element =>
    simp only [kind] at made
    obtain ⟨type, typed, rfl⟩ := made
    simp only [Shape.parts, kind] at part
    simp only [Emit.typeBodyUses, Emit.aliasUses, declarationReferences, kind]
    exact .cons (.builtin _) (.cons (part "member" (by simp) typed) .nil)
  | map key value =>
    simp only [kind] at made
    obtain ⟨keyType, valueType, keyTyped, valueTyped, rfl⟩ := made
    simp only [Shape.parts, kind] at part
    simp only [Emit.typeBodyUses, Emit.aliasUses, declarationReferences, kind]
    exact .cons (.builtin _)
      (.cons (part "key" (by simp) keyTyped) (.cons (part "value" (by simp) valueTyped) .nil))
  | struct s =>
    simp only [kind] at made
    obtain ⟨fields, rfl, declared⟩ := made
    simp only [Emit.typeBodyUses, declarationReferences, kind]
    have alike := (List.forall₂_and_left _ _).mpr ⟨fun _ mem => mem, declared⟩
    refine List.rel_flatMap alike.flip fun d n made => ?_
    obtain ⟨target, found⟩ := h.exists_member mem kind made.1
    exact h.denotes_field planned found made.2

end Shapes

theorem hasCodecs_of_operation (h : ctx.Checked) {o : Operation}
    (mem : o ∈ ctx.service.operations) :
    (∀ {name : String}, o.input = some name → ctx.hasEncoder name) ∧
      ∀ {name : String}, o.output = some name → ctx.hasDecoder name := by
  have checked := (Context.validate_eq_ok.mp h.valid).2.2.2.2.2.1 o mem
  simp only [checkOperationCodecs, bind_eq_ok] at checked
  obtain ⟨⟨⟩, encodes, decodes⟩ := checked
  constructor
  · intro name input
    simp only [input, Option.forM] at encodes
    exact needCodec_eq_ok.mp encodes
  · intro name output
    simp only [output, Option.forM] at decodes
    exact needCodec_eq_ok.mp decodes

/-- A method takes, gives, encodes and decodes what its operation names. -/
theorem denotes_method (h : ctx.Checked) (planned : ctx.plan = .ok m) {o : Operation}
    (mem : o ∈ ctx.service.operations) {method : Method} (made : ctx.method o = .ok method) :
    List.Forall₂ (ctx.Denotes (parts ctx.service.shapes m)) (Emit.methodUses method)
      (operationReferences o) := by
  obtain ⟨encodes, decodes⟩ := h.hasCodecs_of_operation mem
  have own := method_eq_ok made
  have inputs := (List.forall₂_and_left _ _).mpr ⟨fun _ mem => mem, own.input⟩
  have outputs := (List.forall₂_and_left _ _).mpr ⟨fun _ mem => mem, own.output⟩
  have taken : ∀ {name type : String}, name ∈ o.input.toList ∧
      ctx.names.typeName name = .ok type → ∃ target, ctx.service.shape? name = some target := by
    intro name type ⟨here, _⟩
    exact Service.exists_shape_of_input h.references mem (Option.mem_toList.mp here)
  simp only [Emit.methodUses, operationReferences, Option.toList_map]
  refine List.rel_append (List.rel_append (List.rel_append (List.rel_append (List.rel_append
    ?_ (.cons (.builtin _) .nil)) ?_) (.cons (.builtin _) .nil)) ?_) ?_
  · refine List.rel_map (fun type name made => ?_) inputs.flip
    obtain ⟨target, found⟩ := taken made
    exact h.denotes_type planned found made.2
  · refine List.rel_map (fun result name made => ?_) outputs.flip
    obtain ⟨-, target, found, typed⟩ := made.2
    exact h.denotes_type planned found typed
  · refine List.rel_map (fun type name made => ?_) inputs.flip
    obtain ⟨target, found⟩ := taken made
    exact h.denotes_encode planned found made.2 (encodes (Option.mem_toList.mp made.1))
  · refine List.rel_map (fun result name made => ?_) outputs.flip
    obtain ⟨-, target, found, typed⟩ := made.2
    exact h.denotes_decode planned found typed (decodes (Option.mem_toList.mp made.1))

theorem denotes_builtins (names : List String) :
    List.Forall₂ (ctx.Denotes (parts ctx.service.shapes m)) (names.map Use.type)
      (names.map Reference.builtin) := by
  simp only [List.forall₂_map_left_iff, List.forall₂_map_right_iff, List.forall₂_same]
  exact fun name _ => .builtin name

section Parts
variable (h : ctx.Checked) (planned : ctx.plan = .ok m) {shape : Shape} {s : ShapePlan}
  (mem : shape ∈ ctx.service.shapes) (made : ctx.shapePlan shape = .ok s)
include h planned mem made

theorem denotes_decoderPart :
    List.Forall₂ (ctx.Denotes (parts ctx.service.shapes m))
      (((s.decoder.map (Emit.decoder m.protocol)).getD []).flatMap Item.uses)
      (ctx.partReferences (.decoder shape)) := by
  have decoded := (shapePlan_eq_ok made).1
  by_cases decodes : ctx.hasDecoder shape.name
  · simp only [decodes, if_true] at decoded
    obtain ⟨d, made, found⟩ := decoded
    obtain ⟨type, typed⟩ := h.exists_ownType mem
    obtain ⟨target, own⟩ := Service.exists_shape_of_mem mem
    obtain ⟨rfl, body⟩ := decoder_eq_ok typed made
    rw [found, Option.map_some, Option.getD_some, Emit.decoder_uses, (plan_eq_ok planned).1]
    simp only [partReferences, decodes, if_true]
    refine List.rel_append (List.rel_append (denotes_builtins ["str", "HeaderMap", _, "Result"]) ?_)
      (h.denotes_decoded planned mem decodes typed body)
    exact .cons (h.denotes_type planned own typed) (.cons (.builtin _) .nil)
  · simp only [decodes, Bool.false_eq_true, if_false] at decoded
    simp [decoded, partReferences, decodes]

theorem denotes_encoderPart :
    List.Forall₂ (ctx.Denotes (parts ctx.service.shapes m))
      (((s.encoder.map Emit.encoder).getD []).flatMap Item.uses)
      (ctx.partReferences (.encoder shape)) := by
  have encoded := (shapePlan_eq_ok made).2.2
  by_cases encodes : ctx.hasEncoder shape.name
  · simp only [encodes, if_true] at encoded
    obtain ⟨e, made, found⟩ := encoded
    obtain ⟨type, typed⟩ := h.exists_ownType mem
    obtain ⟨target, own⟩ := Service.exists_shape_of_mem mem
    obtain ⟨rfl, body⟩ := encoder_eq_ok typed made
    rw [found, Option.map_some, Option.getD_some, Emit.encoder_uses]
    simp only [partReferences, encodes, if_true]
    refine List.rel_append ?_ (h.denotes_encoded planned mem encodes body)
    exact .cons (.builtin _) (.cons (.builtin _) (.cons (h.denotes_type planned own typed) .nil))
  · simp only [encodes, Bool.false_eq_true, if_false] at encoded
    simp [encoded, partReferences, encodes]

theorem denotes_declarationPart :
    List.Forall₂ (ctx.Denotes (parts ctx.service.shapes m))
      ((s.declaration.map Emit.declaration).toList.flatMap Item.uses)
      (ctx.partReferences (.declaration shape)) := by
  obtain ⟨type, typed⟩ := h.exists_ownType mem
  have declared := declaration_eq_ok typed (shapePlan_eq_ok made).2.1
  by_cases native : isNativeString shape
  · simp only [native, if_true] at declared
    simp [declared, partReferences, native]
  · simp only [native, Bool.false_eq_true, if_false] at declared
    obtain ⟨body, made, found⟩ := declared
    simp only [found, Option.map_some, Option.toList_some, List.flatMap_singleton,
      Emit.declaration_uses, partReferences, native, Bool.false_eq_true, if_false]
    exact h.denotes_declared planned mem made

end Parts

theorem denotes_client (h : ctx.Checked) (planned : ctx.plan = .ok m) :
    List.Forall₂ (ctx.Denotes (parts ctx.service.shapes m))
      ((Emit.client m.protocol m.client).flatMap Item.uses) (ctx.partReferences .client) := by
  rw [Emit.client_uses, partReferences]
  refine List.rel_append (denotes_builtins ["D", "String", "str", "D", "String", "Self", "str"]) ?_
  obtain ⟨-, -, -, called⟩ := plan_eq_ok planned
  have methods := (List.forall₂_and_left _ _).mpr ⟨fun _ mem => mem, called⟩
  exact List.rel_flatMap methods.flip fun _ _ made => h.denotes_method planned made.1 made.2

/-- The module of a checked context is closed. -/
theorem closed (h : ctx.Checked) (planned : ctx.plan = .ok m) : ctx.Closed m := by
  obtain ⟨-, shaped, -, -⟩ := plan_eq_ok planned
  refine ⟨parts_items shaped.length_eq, fun part mem => ?_⟩
  simp only [parts, List.mem_append, List.mem_cons, List.mem_flatMap, List.not_mem_nil,
    or_false] at mem
  rcases mem with (rfl | ⟨⟨shape, s⟩, zipped, mem⟩) | rfl
  · simp [partReferences]
  · have made := List.forall₂_zip shaped zipped
    have own := (List.of_mem_zip zipped).1
    simp only [shapeParts, List.mem_cons, List.not_mem_nil, or_false] at mem
    rcases mem with rfl | rfl | rfl
    · exact h.denotes_decoderPart planned own made
    · exact h.denotes_declarationPart planned own made
    · exact h.denotes_encoderPart planned own made
  · exact h.denotes_client planned

end Checked
end Context

/-- A loaded service that passes every check gets a closed module. -/
theorem checked_module_closed {text : String} {service : Service} {config : Config} {ctx : Context}
    (loaded : Service.load text = .ok service) (made : Context.new service config = .ok ctx)
    (valid : ctx.validate = .ok ()) : ∃ m, ctx.plan = .ok m ∧ ctx.Closed m := by
  have h := Context.Checked.ofLoad loaded made valid
  obtain ⟨m, planned⟩ := h.exists_plan
  exact ⟨m, planned, h.closed planned⟩

theorem nodes_module_closed : Service.load nodesText = .ok nodes ∧
    ∃ ctx, Context.new nodes {} = .ok ctx ∧ ctx.validate = .ok () ∧
      ∃ m, ctx.plan = .ok m ∧ ctx.Closed m := by
  obtain ⟨ctx, made, valid⟩ := exists_context_nodes
  exact ⟨load_nodesText, ctx, made, valid, checked_module_closed load_nodesText made valid⟩

end ServiceClient.Generator
