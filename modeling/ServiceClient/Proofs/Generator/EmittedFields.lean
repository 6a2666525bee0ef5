import ServiceClient.Proofs.Code.Fields
import ServiceClient.Proofs.Generator.EmittedNames

/-! What emitted codecs do with fields, read off the plan. -/

namespace ServiceClient.Codec
open ServiceClient.Code

/-- The name that a header or a part of the body is written under. -/
def Target.wireName? : Target → Option WireName
  | .header wire => some (.header wire)
  | .nested _ wire => some (.part wire)
  | .pathParam _ | .queryParam _ | .rawPayload => none

def FieldRead.wireName (f : FieldRead) : WireName :=
  if f.isHeader then .header f.wire else .part f.wire

end ServiceClient.Codec

namespace ServiceClient.Generator.Emit
open ServiceClient.Code ServiceClient.Codec ServiceClient.Schema
open ServiceClient.Code.Expr (var)

/-! Encoders. -/

theorem writeField_writings (f : FieldWrite) :
    Stmt.listWritings [writeField f] =
      (if f.required then [] else [FieldWriting.guarded f.field]) ++
        FieldWriting.read f.field :: f.target.wireName?.toList.map .named := by
  obtain ⟨field, required, target⟩ := f
  cases required <;> cases target <;>
    simp [Stmt.listWritings, writeField, writeValue, tail, bind, onRequest, run, toWire, putParam,
      joinPath, call, encode, var, Target.wireName?]

section Encoder
variable {e : Function} {fields : List FieldWrite} (body : e.body = encoderBody (.struct fields))
include body

theorem fieldsRead_of_body : e.fieldsRead = fields.map (·.field) := by
  have each : ∀ f : FieldWrite,
      (Stmt.listWritings [writeField f]).filterMap FieldWriting.read? = [f.field] := by
    intro f
    rw [writeField_writings]
    cases f.required <;> cases f.target.wireName? <;>
      simp [List.filterMap_cons, FieldWriting.read?]
  simp only [Function.fieldsRead, body, encoderBody, Stmt.listWritings_map, List.filterMap_flatMap,
    each, ← List.map_eq_flatMap]

theorem fieldsGuarded_of_body :
    e.fieldsGuarded = (fields.filter (!·.required)).map (·.field) := by
  have each : ∀ f : FieldWrite,
      (Stmt.listWritings [writeField f]).filterMap FieldWriting.guarded? =
        if f.required then [] else [f.field] := by
    intro f
    rw [writeField_writings]
    cases f.required <;> cases f.target.wireName? <;>
      simp [List.filterMap_cons, FieldWriting.guarded?]
  simp only [Function.fieldsGuarded, body, encoderBody, Stmt.listWritings_map,
    List.filterMap_flatMap, each]
  clear body
  induction fields with
  | nil => simp
  | cons f fields ih => cases required : f.required <;> simp_all

theorem fieldsWritten_of_body :
    e.fieldsWritten = fields.filterMap fun f => f.target.wireName?.map (f.field, ·) := by
  have each : ∀ f : FieldWrite,
      (writeField f).fieldsWritten = (f.target.wireName?.map (f.field, ·)).toList := by
    intro f
    simp only [Stmt.fieldsWritten, writeField_writings]
    cases f.required <;> cases f.target.wireName? <;>
      simp [List.filterMap_cons, FieldWriting.read?, FieldWriting.named?]
  simp only [Function.fieldsWritten, body, encoderBody, List.flatMap_map, each,
    List.filterMap_eq_flatMap_toList]

end Encoder

/-- The entries of a map are written under the names of its keys and values. -/
theorem namesWritten_of_body {e : Function} {key value keyWire valueWire : String}
    (body : e.body = encoderBody (.map key value keyWire valueWire)) :
    e.namesWritten = [.part keyWire, .part valueWire] := by
  simp [Function.namesWritten, body, Stmt.listWritings, encoderBody, numbered, tail, bind, call,
    nextIndex, encode, joinPath, run, var, FieldWriting.named?]

/-! Decoders. -/

def decoderBody : Protocol → String → DecoderBody → List Stmt
  | .restXml => xmlBody
  | .json => jsonBody

theorem decoder_eq_decoderBody (protocol : Protocol) (d : Decoder) :
    ∃ f : Function, decoder protocol d = codecItems (decoderName d.type) f ∧
      f.body = decoderBody protocol d.type d.body := by
  cases protocol <;> exact ⟨_, rfl, rfl⟩

theorem bodySlots_readings (fields : List FieldRead) :
    Stmt.listReadings (bodySlots fields) =
      (fields.filter (!·.isHeader)).map fun f =>
        .declared f.slot (Option.some (optional f.type)) := by
  rw [bodySlots, Stmt.listReadings_map]
  simp [Stmt.listReadings, var, List.filterMap_cons, ← List.map_eq_flatMap]

theorem headerSlots_readings (fields : List FieldRead) :
    Stmt.listReadings (headerSlots fields) =
      (fields.filter (·.isHeader)).flatMap fun f =>
        [.declared f.slot (Option.some (optional f.type)), .found f.slot (.header f.wire)] := by
  rw [headerSlots, Stmt.listReadings_map]
  simp [Stmt.listReadings, call, var, List.filterMap_cons]

theorem xmlArm_readings (f : FieldRead) :
    (Arm.listNodes [xmlArm f]).flatMap Node.reading = [.found f.slot (.part f.wire)] := by
  simp only [xmlArm]
  split
  · simp [openTag, closeTag, run, onStack, mergeInto, xmlDecode, decode, call, var,
      List.filterMap_cons]
  · split <;> simp [mergeInto, some, xmlDecode, decode, call, var, List.filterMap_cons]

theorem jsonArm_readings (f : FieldRead) :
    (Arm.listNodes [jsonArm f]).flatMap Node.reading = [.found f.slot (.part f.wire)] := by
  simp only [jsonArm]
  split <;> simp [mergeInto, some, jsonDecode, decode, call, var, List.filterMap_cons]

/-- Besides finding the members in the body, the scan for them keeps the name of a part. -/
theorem xmlScan_readings (fields : List FieldRead) :
    ∃ n, Stmt.listReadings [xmlScan fields] =
      List.replicate n (FieldReading.declared "current_name" none) ++
        (fields.filter (!·.isHeader)).map fun f => FieldReading.found f.slot (.part f.wire) := by
  simp only [xmlScan]
  split
  · rename_i none
    exact ⟨0, by simp [none, Stmt.listReadings, tail, run, onStack, var]⟩
  · refine ⟨1, ?_⟩
    simp [Stmt.listReadings, tail, bind, onStack, var, List.filterMap_cons,
      Arm.listNodes_append, Arm.listNodes_map, List.flatMap_assoc, xmlArm_readings,
      ← List.map_eq_flatMap]

theorem jsonScan_readings (fields : List FieldRead) :
    Stmt.listReadings [jsonScan fields] =
      (fields.filter (!·.isHeader)).map fun f => .found f.slot (.part f.wire) := by
  simp only [jsonScan]
  split
  · rename_i none
    simp [none, Stmt.listReadings, run, expect, call, var]
  · simp [Stmt.listReadings, eachEntry, tail, run, expect, call, var, Arm.listNodes_append,
      Arm.listNodes_map, List.flatMap_assoc, jsonArm_readings, ← List.map_eq_flatMap]

theorem fieldValue_nodes (shape : String) (f : FieldRead) :
    (fieldValue shape f).nodes.flatMap Node.reading = [] ∧
      (fieldValue shape f).nodes.filterMap Node.variable? = [f.slot] := by
  simp only [fieldValue]
  split
  · simp [var]
  · split <;> simp [var, List.filterMap_cons]

def literalValues (shape : String) (fields : List FieldRead) : List FieldValue :=
  fields.map fun f => .mk f.field (Option.some (fieldValue shape f))

def literals (type shape : String) : List FieldRead → List (String × List FieldValue)
  | [] => []
  | fields => [(type, literalValues shape fields)]

theorem finish_readings (type shape : String) (fields : List FieldRead) :
    Stmt.listReadings [finish type shape fields] =
      (literals type shape fields).map fun l => .made l.1 l.2 := by
  cases fields with
  | nil => simp [Stmt.listReadings, finish, literals, tail, ok, call, var]
  | cons f fields =>
    simp [Stmt.listReadings, finish, literals, literalValues, tail, ok, call, var,
      FieldValue.listNodes_map, List.flatMap_assoc, fieldValue_nodes]

/-- What a decoder of either protocol does with its variables, in order. -/
theorem decoderBody_readings (protocol : Protocol) (type shape : String)
    (fields : List FieldRead) :
    ∃ n, Stmt.listReadings (decoderBody protocol type (.struct shape fields)) =
      ((fields.filter (!·.isHeader)).map fun f =>
        FieldReading.declared f.slot (Option.some (optional f.type))) ++
      List.replicate n (FieldReading.declared "current_name" none) ++
      ((fields.filter (!·.isHeader)).map fun f => FieldReading.found f.slot (.part f.wire)) ++
      ((fields.filter (·.isHeader)).flatMap fun f =>
        [FieldReading.declared f.slot (Option.some (optional f.type)),
          .found f.slot (.header f.wire)]) ++
      (literals type shape fields).map fun l => FieldReading.made l.1 l.2 := by
  cases protocol with
  | restXml =>
    obtain ⟨n, scanned⟩ := xmlScan_readings fields
    have tags : ∀ tag, Stmt.listReadings [openTag (var tag)] = [] ∧
        Stmt.listReadings [closeTag (var tag)] = [] := by
      simp [Stmt.listReadings, openTag, closeTag, run, onStack, var]
    refine ⟨n, ?_⟩
    rw [decoderBody, xmlBody_struct]
    simp only [Stmt.listReadings_append, bodySlots_readings, scanned, headerSlots_readings,
      finish_readings, tags, List.nil_append, List.append_assoc]
  | json =>
    refine ⟨0, ?_⟩
    rw [decoderBody, jsonBody_struct]
    simp only [Stmt.listReadings_append, bodySlots_readings, jsonScan_readings,
      headerSlots_readings, finish_readings, List.replicate_zero, List.append_nil,
      List.append_assoc]

section Decoder
variable {d : Function} {protocol : Protocol} {type shape : String} {fields : List FieldRead}
  (body : d.body = decoderBody protocol type (.struct shape fields))
include body

/-- The slots of the members, and maybe the name of a part. -/
theorem declared_of_body :
    ∃ n, d.declared = ((fields.filter (!·.isHeader)).map fun f =>
        (f.slot, Option.some (optional f.type))) ++ List.replicate n ("current_name", none) ++
      (fields.filter (·.isHeader)).map fun f => (f.slot, Option.some (optional f.type)) := by
  obtain ⟨n, read⟩ := decoderBody_readings protocol type shape fields
  refine ⟨n, ?_⟩
  simp [Function.declared, body, read, FieldReading.declared?, List.filterMap_flatMap,
    List.filterMap_cons, List.filterMap_map, List.filterMap_replicate, Function.comp_def,
    ← List.map_eq_flatMap]

theorem found_of_body :
    d.found = (fields.filter (!·.isHeader) ++ fields.filter (·.isHeader)).map fun f =>
      (f.slot, f.wireName) := by
  obtain ⟨n, read⟩ := decoderBody_readings protocol type shape fields
  have parts : (fields.filter (!·.isHeader)).map (fun f => (f.slot, f.wireName)) =
      (fields.filter (!·.isHeader)).map fun f => (f.slot, .part f.wire) :=
    List.map_congr_left fun f mem => by
      simpa [FieldRead.wireName] using (List.mem_filter.mp mem).2
  have headers : (fields.filter (·.isHeader)).map (fun f => (f.slot, f.wireName)) =
      (fields.filter (·.isHeader)).map fun f => (f.slot, .header f.wire) :=
    List.map_congr_left fun f mem => by
      simpa [FieldRead.wireName] using (List.mem_filter.mp mem).2
  rw [List.map_append, parts, headers]
  simp [Function.found, body, read, FieldReading.found?, List.filterMap_flatMap,
    List.filterMap_cons, List.filterMap_map, List.filterMap_replicate, Function.comp_def,
    ← List.map_eq_flatMap]

theorem made_of_body : d.made = literals type shape fields := by
  obtain ⟨n, read⟩ := decoderBody_readings protocol type shape fields
  simp [Function.made, body, read, FieldReading.made?, List.filterMap_flatMap,
    List.filterMap_map, List.filterMap_replicate, List.filterMap_cons, Function.comp_def]

theorem fieldValues_of_body : d.fieldValues = literalValues shape fields := by
  rw [Function.fieldValues, made_of_body body]
  cases fields <;> simp [literals, literalValues]

theorem yielded_of_body :
    d.yielded? = Option.some (if fields = [] then var type
      else .struct type (literalValues shape fields) false) := by
  obtain ⟨before, ends⟩ : ∃ before, d.body = before ++ [finish type shape fields] := by
    cases protocol with
    | restXml => exact ⟨_, body.trans (xmlBody_struct type shape fields)⟩
    | json => exact ⟨_, body.trans (jsonBody_struct type shape fields)⟩
  rw [Function.yielded?, ends, List.getLast?_concat]
  cases fields <;> simp [finish, tail, ok, call, var, literalValues]

/-- Only an optional field is given its slot as it stands. -/
theorem handedOn_of_body :
    (d.fieldValues.filter FieldValue.isVariable).map FieldValue.name =
      (fields.filter (!·.required)).map (·.field) := by
  have each : ∀ f : FieldRead,
      FieldValue.isVariable (.mk f.field (Option.some (fieldValue shape f))) = !f.required := by
    intro f
    cases required : f.required <;> cases collection : f.collection <;>
      simp [fieldValue, required, collection, FieldValue.isVariable, var]
  simp [fieldValues_of_body body, literalValues, List.filter_map, Function.comp_def, each,
    FieldValue.name]

end Decoder

/-- The entries of a map in XML are read under the names of its keys and values. -/
theorem namesDecoded_of_body {d : Function} {type key value keyWire valueWire : String}
    (body : d.body = xmlBody type (.map key value keyWire valueWire)) :
    d.namesDecoded = [keyWire, valueWire] := by
  simp [Function.namesDecoded, body, xmlBody, newObject, whileTag, xmlDecode, decode, insertEntry,
    openTag, closeTag, run, onStack, bind, tail, ok, some, call, var, List.filterMap_cons]

/-! Declarations. -/

theorem declaration_fields (docs : List String) (type : String)
    (fields : List FieldDeclaration) :
    (declaration ⟨docs, type, .struct fields⟩).fields =
        fields.map (fun f => ⟨f.docs, true, f.name, memberType f.type f.required⟩) ∧
      ((declaration ⟨docs, type, .struct fields⟩).isUnitStruct ↔ fields = []) := by
  cases fields <;> simp [declaration, Item.fields, Item.isUnitStruct]

@[simp] theorem memberType_isOptional (type : String) (required : Bool) :
    (memberType type required).isOptional = !required := by
  cases required <;> rfl

@[simp] theorem memberType_held (type : String) (required : Bool) :
    (memberType type required).held = .name type := by
  cases required <;> rfl

end ServiceClient.Generator.Emit
