import ServiceClient.Generator.Emit
import ServiceClient.Proofs.Code.Use

/-! The names that emitted code uses, read off the plan: an encoder calls the encoders of the parts
that it nests, a decoder of either protocol those of the parts that it reads from the body. -/

namespace ServiceClient.Generator.Emit
open ServiceClient.Code ServiceClient.Codec ServiceClient.Schema
open ServiceClient.Code.Expr (var)

def encodeUse (type : String) : Use :=
  .codec (encoderName type) "encode"

def decodeUse (type : String) : Use :=
  .codec (decoderName type) "decode"

/-- The types whose encoders the body of an encoder calls. -/
def encoded : EncoderBody → List String
  | .scalar => []
  | .list element => [element]
  | .map key value _ _ => [key, value]
  | .struct fields => fields.filterMap fun f =>
      match f.target with
      | .nested type _ => Option.some type
      | _ => none

def primitiveUses (kind : PrimitiveKind) : List Use :=
  (primitiveType kind).uses

def optionalUses (type : String) : List Use :=
  [.type "Option", .type type]

def decoderBodyUses (type : String) : DecoderBody → List Use
  | .scalar _ => [.type type]
  | .list element => [decodeUse element]
  | .map key value _ _ => [decodeUse key, decodeUse value]
  | .struct _ fields =>
    let read := fields.filter (!·.isHeader)
    read.flatMap (fun f => optionalUses f.type) ++ read.map (fun f => decodeUse f.type) ++
      (fields.filter (·.isHeader)).flatMap fun f => optionalUses f.type ++ [.type f.type]

@[simp] theorem param_uses (body : List Stmt) (name : String) (type : Ty) :
    (param body name type).uses = type.uses := rfl

theorem encodePath_uses (type : String) :
    pathUses [encoderName type, "encode"] = [encodeUse type] := by
  simp [pathUses, codecFunctions, encodeUse]

theorem decodePath_uses (type : String) :
    pathUses [decoderName type, "decode"] = [decodeUse type] := by
  simp [pathUses, codecFunctions, decodeUse]

theorem writeField_uses (f : FieldWrite) :
    Stmt.listUses [writeField f] = (encoded (.struct [f])).map encodeUse := by
  obtain ⟨field, required, target⟩ := f
  cases required <;> cases target <;>
    simp [writeField, writeValue, tail, bind, onRequest, run, toWire, putParam, joinPath, call,
      encode, encodePath_uses, encoded]

theorem encoderBody_uses (body : EncoderBody) :
    Stmt.listUses (encoderBody body) = (encoded body).map encodeUse := by
  cases body with
  | scalar => simp [encoderBody, putParam, run, toWire, encoded]
  | list element =>
    simp [encoderBody, numbered, tail, joinPath, call, nextIndex, encode, run, encodePath_uses,
      encoded]
  | map key value keyWire valueWire =>
    simp [encoderBody, numbered, tail, bind, joinPath, call, nextIndex, encode, run,
      encodePath_uses, encoded]
  | struct fields =>
    rw [encoderBody, Stmt.listUses_map]
    induction fields with
    | nil => rfl
    | cons f fields ih =>
      rw [List.flatMap_cons, ih, writeField_uses, ← List.map_append]
      simp only [encoded, ← List.filterMap_append, List.singleton_append]

/-- An encoder uses its own type and the encoders of what it nests. -/
theorem encoder_uses (e : Encoder) :
    (encoder e).flatMap Item.uses =
      [Use.type "ServiceRequest", .type "str", .type e.type] ++ (encoded e.body).map encodeUse := by
  simp [encoder, codecItems, encoderBody_uses]

theorem bodySlots_uses (fields : List FieldRead) :
    Stmt.listUses (bodySlots fields) =
      (fields.filter (!·.isHeader)).flatMap fun f => optionalUses f.type := by
  rw [bodySlots, Stmt.listUses_map]
  simp [optional, optionalUses]

theorem headerSlots_uses (fields : List FieldRead) :
    Stmt.listUses (headerSlots fields) =
      (fields.filter (·.isHeader)).flatMap fun f => optionalUses f.type ++ [Use.type f.type] := by
  rw [headerSlots, Stmt.listUses_map]
  simp [optional, optionalUses, call]

theorem fieldValue_uses (shape : String) (f : FieldRead) : (fieldValue shape f).uses = [] := by
  simp only [fieldValue]
  split
  · rfl
  · split
    · simp
    · simp [pathUses, codecFunctions]

theorem finish_uses (type shape : String) (fields : List FieldRead) :
    Stmt.listUses [finish type shape fields] = [] := by
  cases fields with
  | nil => simp [finish, tail, ok, call]
  | cons f fields => simp [finish, tail, ok, call, FieldValue.listUses_map, fieldValue_uses]

theorem xmlArm_uses (f : FieldRead) : Arm.listUses [xmlArm f] = [decodeUse f.type] := by
  simp only [xmlArm]
  split
  · simp [openTag, closeTag, run, onStack, mergeInto, xmlDecode, decode, call, decodePath_uses]
  · split <;> simp [mergeInto, some, xmlDecode, decode, call, decodePath_uses]

theorem xmlArms_uses (fields : List FieldRead) :
    Arm.listUses (fields.map xmlArm) = fields.map fun f => decodeUse f.type := by
  simp only [Arm.listUses_map, xmlArm_uses, ← List.map_eq_flatMap]

theorem xmlScan_uses (fields : List FieldRead) :
    Stmt.listUses [xmlScan fields] =
      (fields.filter (!·.isHeader)).map fun f => decodeUse f.type := by
  simp only [xmlScan]
  split
  · rename_i none
    simp [none, tail, run, onStack]
  · simp [tail, bind, onStack, Arm.listUses_append, xmlArms_uses]

theorem xmlBody_uses (type : String) (body : DecoderBody) :
    Stmt.listUses (xmlBody type body) = decoderBodyUses type body := by
  cases body with
  | scalar kind =>
    simp [xmlBody, openTag, closeTag, run, onStack, bind, tail, ok, call, decoderBodyUses]
  | list element =>
    simp [xmlBody, newObject, whileTag, xmlDecode, decode, run, onStack, tail, ok, some, call,
      pathUses, codecFunctions, decoderBodyUses, decodeUse]
  | map key value keyWire valueWire =>
    simp [xmlBody, newObject, whileTag, xmlDecode, decode, insertEntry, openTag, closeTag, run,
      onStack, bind, tail, ok, some, call, pathUses, codecFunctions, decoderBodyUses, decodeUse]
  | struct shape fields =>
    rw [xmlBody_struct]
    simp only [Stmt.listUses_append, bodySlots_uses, xmlScan_uses, headerSlots_uses, finish_uses]
    simp [openTag, closeTag, run, onStack, decoderBodyUses]

theorem jsonArm_uses (f : FieldRead) : Arm.listUses [jsonArm f] = [decodeUse f.type] := by
  simp only [jsonArm]
  split <;> simp [mergeInto, some, jsonDecode, decode, call, decodePath_uses]

theorem jsonArms_uses (fields : List FieldRead) :
    Arm.listUses (fields.map jsonArm) = fields.map fun f => decodeUse f.type := by
  simp only [Arm.listUses_map, jsonArm_uses, ← List.map_eq_flatMap]

theorem jsonScan_uses (fields : List FieldRead) :
    Stmt.listUses [jsonScan fields] =
      (fields.filter (!·.isHeader)).map fun f => decodeUse f.type := by
  simp only [jsonScan]
  split
  · rename_i none
    simp [none, run, expect, call]
  · simp [eachEntry, tail, run, expect, call, Arm.listUses_append, jsonArms_uses]

theorem jsonBody_uses (type : String) (body : DecoderBody) :
    Stmt.listUses (jsonBody type body) = decoderBodyUses type body := by
  cases body with
  | scalar kind => simp [jsonBody, tail, decoderBodyUses]
  | list element => simp [jsonBody, expect, tail, call, decodePath_uses, decoderBodyUses]
  | map key value keyWire valueWire =>
    simp [jsonBody, newObject, eachEntry, jsonDecode, decode, insertEntry, expect, run, bind, tail,
      ok, call, pathUses, codecFunctions, decoderBodyUses, decodeUse]
  | struct shape fields =>
    rw [jsonBody_struct]
    simp only [Stmt.listUses_append, bodySlots_uses, jsonScan_uses, headerSlots_uses, finish_uses]
    simp [decoderBodyUses]

/-- The type from which a decoder reads. -/
def inputType : Protocol → String
  | .restXml => "XmlReader"
  | .json => "JsonValue"

/-- A decoder uses its own type and the decoders of what it reads from the body. -/
theorem decoder_uses (protocol : Protocol) (d : Decoder) :
    (decoder protocol d).flatMap Item.uses =
      [Use.type "str", .type "HeaderMap", .type (inputType protocol), .type "Result", .type d.type,
        .type "ParseError"] ++ decoderBodyUses d.type d.body := by
  cases protocol with
  | restXml => simp [decoder, xmlDecoder, codecItems, result, inputType, xmlBody_uses]
  | json => simp [decoder, jsonDecoder, codecItems, result, inputType, jsonBody_uses]

def aliasUses : Alias → List Use
  | .primitive kind => primitiveUses kind
  | .list element => [.type "Vec", .type element]
  | .map key value => [.type "BTreeMap", .type key, .type value]

def fieldUses (type : String) (required : Bool) : List Use :=
  if required then [.type type] else optionalUses type

def typeBodyUses : TypeBody → List Use
  | .alias target => aliasUses target
  | .struct fields => fields.flatMap fun f => fieldUses f.type f.required

theorem memberType_uses (type : String) (required : Bool) :
    (memberType type required).uses = fieldUses type required := by
  cases required <;> simp [memberType, optional, fieldUses, optionalUses]

/-- A declaration uses the types of its fields or those that it is another name for. -/
theorem declaration_uses (d : Declaration) : (declaration d).uses = typeBodyUses d.body := by
  obtain ⟨docs, name, _ | _ | ⟨f, fields⟩⟩ := d
  · rename_i target
    cases target <;> simp [declaration, typeBodyUses, aliasType, aliasUses, primitiveUses]
  · simp [declaration, typeBodyUses]
  · simp [declaration, typeBodyUses, List.flatMap_map, memberType_uses]

def methodUses (m : Method) : List Use :=
  (m.input.map Use.type).toList ++ [.type "Result"] ++
    (m.output.map fun o => Use.type o.type).toList ++ [.type "OperationError"] ++
    (m.input.map encodeUse).toList ++ (m.output.map fun o => decodeUse o.type).toList

theorem setupSteps_uses (setup : List Setup) : Stmt.listUses (setup.map setupStep) = [] := by
  rw [Stmt.listUses_map, List.flatMap_eq_nil_iff]
  rintro (_ | _) _ <;> simp [setupStep, putParam, onRequest, run]

theorem success_uses (protocol : Protocol) (output : Option Output) :
    Arm.listUses [success protocol output] = (output.map fun o => decodeUse o.type).toList := by
  cases output with
  | none => simp [success, ok, call]
  | some o =>
    cases protocol <;>
      simp [success, bind, decodeOutput, responsePart, tail, ok, decode, call, pathUses,
        codecFunctions, decodeUse]

/-- A method uses the types of its input and output, the encoder of the one and the decoder of the
other. -/
theorem method_uses (protocol : Protocol) (m : Method) :
    (method protocol m).uses = methodUses m := by
  obtain ⟨docs, name, operation, http, uri, setup, input, output⟩ := m
  have arms : ∀ rest, Arm.listUses (success protocol output :: rest) =
      (output.map fun o => decodeUse o.type).toList ++ Arm.listUses rest := by
    intro rest
    rw [← success_uses, ← Arm.listUses_append, List.singleton_append]
  cases input <;> cases output <;>
    simp [method, methodBody, methodUses, Param.uses, Stmt.listUses_append, setupSteps_uses, arms,
      bind, tail, run, responsePart, call, pathUses, codecFunctions, encodeUse]

/-- The client uses the type parameter for what sends its requests, and what its methods use. -/
theorem client_uses (protocol : Protocol) (c : Client) :
    (client protocol c).flatMap Item.uses =
      [Use.type "D", .type "String", .type "str", .type "D", .type "String", .type "Self",
        .type "str"] ++ c.methods.flatMap methodUses := by
  have methods : (c.methods.map fun m => ImplItem.function (method protocol m)).flatMap
      ImplItem.uses = c.methods.flatMap methodUses := by
    simp only [List.flatMap_map, ImplItem.uses, method_uses]
  have own : newMethod.uses = [.type "D", .type "String", .type "Self"] := by
    simp [newMethod, Param.uses, tail]
  have region : regionMethod.uses = [.type "str"] := by
    simp [regionMethod, Param.uses, tail]
  simp [client, -Function.uses, methods, own, region]

end ServiceClient.Generator.Emit
