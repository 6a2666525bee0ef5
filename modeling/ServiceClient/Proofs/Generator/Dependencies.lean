import ServiceClient.Proofs.Generator.Closure

/-! Calls of codecs. Wherever the checks take a codec to depend on that of another shape, its code
calls it, at one of its own parts; and a method calls the codecs of what its operation takes and
gives. -/

namespace ServiceClient.Generator
open ServiceClient.Code ServiceClient.Codec ServiceClient.Schema ServiceClient.Sequence

/-- The items of a shape's encoder or decoder; none where it has no such codec. -/
def emittedCodec (protocol : Protocol) (s : ShapePlan) : Codec → List Item
  | .encoder => (s.encoder.map Emit.encoder).getD []
  | .decoder => (s.decoder.map (Emit.decoder protocol)).getD []

def codecUse (type : String) : Codec → Use
  | .encoder => Emit.encodeUse type
  | .decoder => Emit.decodeUse type

/-- The shape whose codec the method of an operation has a use for. -/
def codedShape? (o : Operation) : Codec → Option String
  | .encoder => o.input
  | .decoder => o.output

namespace Context
variable {ctx : Context}

/-- The code calls the codec of a shape for which there is none. -/
def CallsMissing (ctx : Context) (codec : Codec) (uses : List Use) (referenced : String) : Prop :=
  ∃ target plan type, ctx.service.shape? referenced = some target ∧
    ctx.shapePlan target = .ok plan ∧ emittedCodec ctx.protocol plan codec = [] ∧
    ctx.names.typeName referenced = .ok type ∧ codecUse type codec ∈ uses

section Bodies
variable {shape : Shape} {part referenced : String}

/-- The part of the shape that a codec depends on, with the type whose codec is called for it. -/
def CallsAt (ctx : Context) (shape : Shape) (part referenced type : String) : Prop :=
  ∃ m, (part, m) ∈ shape.parts ∧ m.shape = referenced ∧ ctx.names.typeName referenced = .ok type

theorem exists_encoded {body : EncoderBody} (made : ctx.encoderBody shape.kind = .ok body)
    {dependencies : List (String × String)}
    (listed : ctx.encoderDependencies shape = .ok dependencies)
    (here : (part, referenced) ∈ dependencies) :
    ∃ type ∈ Emit.encoded body, ctx.CallsAt shape part referenced type := by
  have made := encoderBody_eq_ok made
  cases kind : shape.kind with
  | primitive k =>
    simp only [encoderDependencies, kind, Shape.parts] at listed
    cases listed
    cases here
  | list element =>
    simp only [kind] at made
    obtain ⟨type, typed, rfl⟩ := made
    simp only [encoderDependencies, kind, Shape.parts] at listed
    cases listed
    obtain ⟨rfl, rfl⟩ := by simpa using here
    exact ⟨type, by simp [Emit.encoded], element, by simp [Shape.parts, kind], rfl, typed⟩
  | map key value =>
    simp only [kind] at made
    obtain ⟨keyType, valueType, keyTyped, valueTyped, rfl⟩ := made
    simp only [encoderDependencies, kind, Shape.parts] at listed
    cases listed
    obtain ⟨rfl, rfl⟩ | ⟨rfl, rfl⟩ := by simpa using here
    · exact ⟨keyType, by simp [Emit.encoded], key, by simp [Shape.parts, kind], rfl, keyTyped⟩
    · exact ⟨valueType, by simp [Emit.encoded], value, by simp [Shape.parts, kind], rfl, valueTyped⟩
  | struct s =>
    simp only [kind] at made
    obtain ⟨plans, resolved, rfl⟩ := made
    simp only [encoderDependencies, kind, resolved, bind, Except.bind] at listed
    cases listed
    obtain ⟨p, nested, ⟨⟩⟩ := List.mem_map.mp here
    obtain ⟨⟨name, m⟩, inside, planned⟩ :=
      exists_mem_left (mapM_eq_ok.mp resolved) (List.mem_of_mem_filter nested)
    obtain ⟨rfl, rfl, -, typed, -⟩ := memberPlan_eq_ok planned
    rw [encoded_struct]
    exact ⟨p.type, List.mem_map_of_mem nested, p.member, by simpa [Shape.parts, kind] using inside,
      rfl, typed⟩

theorem exists_decoded {body : DecoderBody}
    (made : ctx.decoderBody shape.name shape.kind = .ok body)
    (here : (part, referenced) ∈ decoderDependencies shape) (own : String) :
    ∃ type, Emit.decodeUse type ∈ Emit.decoderBodyUses own body ∧
      ctx.CallsAt shape part referenced type := by
  have made := decoderBody_eq_ok made
  cases kind : shape.kind with
  | primitive k => simp [decoderDependencies, kind, Shape.parts] at here
  | list element =>
    simp only [kind] at made
    obtain ⟨type, typed, rfl⟩ := made
    obtain ⟨rfl, rfl⟩ := by simpa [decoderDependencies, kind, Shape.parts] using here
    exact ⟨type, by simp [Emit.decoderBodyUses], element, by simp [Shape.parts, kind], rfl, typed⟩
  | map key value =>
    simp only [kind] at made
    obtain ⟨keyType, valueType, keyTyped, valueTyped, rfl⟩ := made
    obtain ⟨rfl, rfl⟩ | ⟨rfl, rfl⟩ := by simpa [decoderDependencies, kind, Shape.parts] using here
    · exact ⟨keyType, by simp [Emit.decoderBodyUses], key, by simp [Shape.parts, kind], rfl,
        keyTyped⟩
    · exact ⟨valueType, by simp [Emit.decoderBodyUses], value, by simp [Shape.parts, kind], rfl,
        valueTyped⟩
  | struct s =>
    simp only [kind] at made
    obtain ⟨plans, resolved, rfl⟩ := made
    simp only [decoderDependencies, kind] at here
    obtain ⟨⟨name, m⟩, read, ⟨⟩⟩ := List.mem_map.mp here
    obtain ⟨f, listed, -, p, planned, rfl⟩ :=
      exists_mem_left (readAs_of_memberPlans resolved).2.1 read
    obtain ⟨-, -, -, typed, -⟩ := memberPlan_eq_ok planned
    have inside : (name, m) ∈ shape.parts := by
      simpa [Shape.parts, kind] using List.mem_of_mem_filter read
    refine ⟨p.type, ?_, m, inside, rfl, typed⟩
    exact List.mem_append_left _ (List.mem_append_right _ (List.mem_map_of_mem listed))

end Bodies

theorem exists_need_of_checkShapeCodecs {shape : Shape} {e : Error}
    (refused : ctx.checkShapeCodecs shape = .error e) :
    (ctx.hasEncoder shape.name ∧ (ctx.encoderDependencies shape = .error e ∨
      ∃ dependencies, ctx.encoderDependencies shape = .ok dependencies ∧ ∃ p ∈ dependencies,
        ctx.needCodec .encoder s!"{shape.name}.{p.1}" p.2 = .error e)) ∨
    ctx.hasDecoder shape.name ∧ ∃ p ∈ decoderDependencies shape,
      ctx.needCodec .decoder s!"{shape.name}.{p.1}" p.2 = .error e := by
  have decoders : ∀ {r : Except Error Unit}, r = .ok () →
      (if ctx.hasDecoder shape.name then (decoderDependencies shape).forM fun p =>
        ctx.needCodec .decoder s!"{shape.name}.{p.1}" p.2 else r) = .error e →
      ctx.hasDecoder shape.name ∧ ∃ p ∈ decoderDependencies shape,
        ctx.needCodec .decoder s!"{shape.name}.{p.1}" p.2 = .error e := by
    rintro _ rfl failed
    split at failed
    · rename_i decodes
      exact ⟨decodes, exists_of_forM_eq_error failed⟩
    · cases failed
  simp only [checkShapeCodecs] at refused
  split at refused
  · rename_i encodes
    rcases bind_eq_error.mp refused with unlisted | ⟨dependencies, listed, refused⟩
    · exact .inl ⟨encodes, .inl unlisted⟩
    rcases bind_eq_error.mp refused with need | ⟨-, -, refused⟩
    · exact .inl ⟨encodes, .inr ⟨dependencies, listed, exists_of_forM_eq_error need⟩⟩
    · exact .inr (decoders rfl refused)
  · exact .inr (decoders rfl refused)

namespace Resolved
variable (h : ctx.Resolved) {codec : Codec} {owner referenced type : String} {uses : List Use}
  {e : Error}
include h

/-- Where the check for a codec fails, there is none to call. -/
theorem callsMissing_of_needCodec (refused : ctx.needCodec codec owner referenced = .error e)
    {target : Shape} (found : ctx.service.shape? referenced = some target)
    (typed : ctx.names.typeName referenced = .ok type) (calls : codecUse type codec ∈ uses) :
    e = .missingCodec owner referenced codec ∧ ctx.CallsMissing codec uses referenced := by
  obtain ⟨mem, rfl⟩ := Service.shape?_eq_some found
  obtain ⟨plan, planned⟩ := h.exists_shapePlan mem
  obtain ⟨decoder, -, encoder⟩ := shapePlan_eq_ok planned
  cases codec with
  | encoder =>
    by_cases encodes : ctx.hasEncoder target.name
    · simp [needCodec, encodes] at refused
    · rw [if_neg encodes] at encoder
      have missing : emittedCodec ctx.protocol plan .encoder = [] := by simp [emittedCodec, encoder]
      simp only [needCodec, encodes, Bool.false_eq_true, if_false, Except.error.injEq] at refused
      exact ⟨refused.symm, target, plan, type, found, planned, missing, typed, calls⟩
  | decoder =>
    by_cases decodes : ctx.hasDecoder target.name
    · simp [needCodec, decodes] at refused
    · rw [if_neg decodes] at decoder
      have missing : emittedCodec ctx.protocol plan .decoder = [] := by simp [emittedCodec, decoder]
      simp only [needCodec, decodes, Bool.false_eq_true, if_false, Except.error.injEq] at refused
      exact ⟨refused.symm, target, plan, type, found, planned, missing, typed, calls⟩

omit e in
theorem exists_dependencies {shape : Shape} (mem : shape ∈ ctx.service.shapes) :
    ∃ dependencies, ctx.encoderDependencies shape = .ok dependencies := by
  cases kind : shape.kind with
  | struct s =>
    obtain ⟨plans, planned⟩ := h.exists_memberPlans mem kind
    simp only [encoderDependencies, kind, planned, bind, Except.bind]
    exact ⟨_, rfl⟩
  | primitive | list | map =>
    simp only [encoderDependencies, kind]
    exact ⟨_, rfl⟩

/-- A shape's codec that fails its check calls, at the reported part, a codec that there is not. -/
theorem callsMissing_of_checkShapeCodecs {shape : Shape} (mem : shape ∈ ctx.service.shapes)
    (refused : ctx.checkShapeCodecs shape = .error e) :
    ∃ codec part m plan, (part, m) ∈ shape.parts ∧ ctx.shapePlan shape = .ok plan ∧
      e = .missingCodec s!"{shape.name}.{part}" m.shape codec ∧
      ctx.CallsMissing codec ((emittedCodec ctx.protocol plan codec).flatMap Item.uses)
        m.shape := by
  obtain ⟨own, typed⟩ := h.exists_ownType mem
  obtain ⟨plan, planned⟩ := h.exists_shapePlan mem
  obtain ⟨decoder, -, encoder⟩ := shapePlan_eq_ok planned
  rcases exists_need_of_checkShapeCodecs refused with
    ⟨encodes, unlisted | ⟨_, listed, p, here, need⟩⟩ | ⟨decodes, p, here, need⟩
  · obtain ⟨dependencies, listed⟩ := h.exists_dependencies mem
    cases unlisted.symm.trans listed
  · rw [if_pos encodes] at encoder
    obtain ⟨e, made, found⟩ := encoder
    obtain ⟨type, called, m, part, same, typed⟩ :=
      exists_encoded (encoder_eq_ok typed made).2 listed here
    obtain ⟨target, defined⟩ := Service.exists_shape_of_part h.references mem part
    have calls : codecUse type .encoder ∈
        (emittedCodec ctx.protocol plan .encoder).flatMap Item.uses := by
      rw [emittedCodec, found, Option.map_some, Option.getD_some, Emit.encoder_uses]
      exact List.mem_append_right _ (List.mem_map_of_mem called)
    rw [← same] at need typed
    exact ⟨.encoder, p.1, m, plan, part, planned,
      h.callsMissing_of_needCodec need defined typed calls⟩
  · rw [if_pos decodes] at decoder
    obtain ⟨d, made, found⟩ := decoder
    obtain ⟨type, called, m, part, same, typed⟩ :=
      exists_decoded (decoder_eq_ok typed made).2 here _
    obtain ⟨target, defined⟩ := Service.exists_shape_of_part h.references mem part
    have calls : codecUse type .decoder ∈
        (emittedCodec ctx.protocol plan .decoder).flatMap Item.uses := by
      rw [emittedCodec, found, Option.map_some, Option.getD_some, Emit.decoder_uses]
      exact List.mem_append_right _ called
    rw [← same] at need typed
    exact ⟨.decoder, p.1, m, plan, part, planned,
      h.callsMissing_of_needCodec need defined typed calls⟩

/-- A method that fails its check calls a codec that there is not, whatever its own name is. -/
theorem callsMissing_of_checkOperationCodecs {o : Operation} (mem : o ∈ ctx.service.operations)
    (refused : ctx.checkOperationCodecs o = .error e) :
    ∃ codec referenced m, codedShape? o codec = some referenced ∧
      (∀ name, ctx.names.snakeName o.name = .ok name → ctx.method o = .ok { m with name }) ∧
      e = .missingCodec s!"operation {o.name}" referenced codec ∧
      ctx.CallsMissing codec (Emit.method ctx.protocol m).uses referenced := by
  obtain ⟨m, made, taken, given⟩ := h.exists_methodAs mem
  rcases bind_eq_error.mp refused with input | ⟨-, -, output⟩
  · cases named : o.input with
    | none => simp [named, Option.forM, pure, Except.pure] at input
    | some referenced =>
      obtain ⟨target, found⟩ := Service.exists_shape_of_input h.references mem named
      rw [named, Option.toList_some] at taken
      obtain ⟨type, listed, typed⟩ := exists_mem_left taken.flip List.mem_cons_self
      have calls : codecUse type .encoder ∈ (Emit.method ctx.protocol m).uses := by
        rw [Emit.method_uses]
        simp [Emit.methodUses, codecUse, Option.mem_toList.mp listed]
      rw [named] at input
      exact ⟨.encoder, referenced, m, named, made,
        h.callsMissing_of_needCodec input found typed calls⟩
  · cases named : o.output with
    | none => simp [named, Option.forM, pure, Except.pure] at output
    | some referenced =>
      obtain ⟨target, found⟩ := Service.exists_shape_of_output h.references mem named
      rw [named, Option.toList_some] at given
      obtain ⟨result, listed, typed⟩ := exists_mem_left given.flip List.mem_cons_self
      have calls : codecUse result.type .decoder ∈ (Emit.method ctx.protocol m).uses := by
        rw [Emit.method_uses]
        simp [Emit.methodUses, codecUse, Option.mem_toList.mp listed]
      rw [named] at output
      exact ⟨.decoder, referenced, m, named, made,
        h.callsMissing_of_needCodec output found typed calls⟩

end Resolved
end Context
end ServiceClient.Generator
