import ServiceClient.Generator.Emit
import ServiceClient.Proofs.Code.Binding

/-! The names that emitted code defines, read off the plan: a declaration has the fields of its
structure, a decoder of either protocol a slot for each member and an arm for each member in the
body, and the client a method for each operation behind its own two. -/

namespace ServiceClient.Generator.Emit
open ServiceClient.Code ServiceClient.Codec ServiceClient.Schema
open ServiceClient.Code.Expr (var)

theorem declaration_fieldNames (d : Declaration) :
    (declaration d).fieldNames =
      match d.body with
      | .alias _ => []
      | .struct fields => fields.map (·.name) := by
  obtain ⟨docs, name, _ | _ | _⟩ := d <;> simp [declaration, Item.fieldNames]

theorem declaration_functions (d : Declaration) : (declaration d).functions = [] := by
  obtain ⟨docs, name, _ | _ | _⟩ := d <;> rfl

theorem writeField_defines (f : FieldWrite) :
    [writeField f].filterMap Stmt.bound? = [] ∧ Stmt.listArmTexts [writeField f] = [] := by
  obtain ⟨field, required, target⟩ := f
  cases required <;> cases target <;>
    simp [writeField, writeValue, tail, bind, onRequest, run, toWire, putParam, joinPath, call,
      encode]

/-- An encoder keeps nothing in variables of its own, and compares no texts. -/
theorem encoderBody_defines (body : EncoderBody) :
    (encoderBody body).filterMap Stmt.bound? = [] ∧ Stmt.listArmTexts (encoderBody body) = [] := by
  cases body with
  | scalar => simp [encoderBody, putParam, run, toWire]
  | list element => simp [encoderBody, numbered, tail, joinPath, call, nextIndex, encode, run]
  | map key value keyWire valueWire =>
    simp [encoderBody, numbered, tail, bind, joinPath, call, nextIndex, encode, run]
  | struct fields =>
    constructor
    · rw [encoderBody, List.filterMap_map, List.filterMap_eq_nil_iff]
      intro f _
      simpa using (writeField_defines f).1
    · rw [encoderBody, Stmt.listArmTexts_map, List.flatMap_eq_nil_iff]
      exact fun f _ => (writeField_defines f).2

theorem encoder_defines (e : Encoder) :
    ∃ f : Function, encoder e = codecItems (encoderName e.type) f ∧ f.locals = [] ∧
      f.armTexts = [] :=
  ⟨_, rfl, encoderBody_defines e.body⟩

/-- The slots of a decoder, those of members in the body first. -/
def slots (fields : List FieldRead) : List String :=
  (fields.filter (!·.isHeader) ++ fields.filter (·.isHeader)).map FieldRead.slot

theorem slotOrder_perm (fields : List FieldRead) :
    (fields.filter (!·.isHeader) ++ fields.filter (·.isHeader)).Perm fields :=
  List.perm_append_comm.trans (List.filter_append_perm FieldRead.isHeader fields)

def wires (fields : List FieldRead) : List String :=
  (fields.filter (!·.isHeader)).map (·.wire)

theorem bodySlots_bound (fields : List FieldRead) :
    (bodySlots fields).filterMap Stmt.bound? =
      (fields.filter (!·.isHeader)).map FieldRead.slot := by
  simp [bodySlots, List.filterMap_map, Function.comp_def]

theorem headerSlots_bound (fields : List FieldRead) :
    (headerSlots fields).filterMap Stmt.bound? =
      (fields.filter (·.isHeader)).map FieldRead.slot := by
  simp [headerSlots, List.filterMap_map, Function.comp_def]

theorem bodySlots_armTexts (fields : List FieldRead) :
    Stmt.listArmTexts (bodySlots fields) = [] := by
  rw [bodySlots, Stmt.listArmTexts_map]
  simp

theorem headerSlots_armTexts (fields : List FieldRead) :
    Stmt.listArmTexts (headerSlots fields) = [] := by
  rw [headerSlots, Stmt.listArmTexts_map]
  simp [call]

theorem fieldValue_armTexts (shape : String) (f : FieldRead) :
    (fieldValue shape f).armTexts = [] := by
  simp only [fieldValue]
  split
  · simp
  · split <;> simp

theorem finish_defines (type shape : String) (fields : List FieldRead) :
    (finish type shape fields).bound? = none ∧
      Stmt.listArmTexts [finish type shape fields] = [] := by
  cases fields with
  | nil => simp [finish, tail, ok, call]
  | cons f fields =>
    have plain : FieldValue.listArmTexts
        ((f :: fields).map fun f => .mk f.field (Option.some (fieldValue shape f))) = [] :=
      FieldValue.listArmTexts_eq_nil (by simp [fieldValue_armTexts])
    simpa [finish, tail, ok, call] using plain

theorem xmlArm_texts (f : FieldRead) : Arm.listArmTexts [xmlArm f] = [f.wire] := by
  simp only [xmlArm]
  split
  · simp [openTag, closeTag, run, onStack, mergeInto, xmlDecode, decode, call]
  · split <;> simp [mergeInto, some, xmlDecode, decode, call]

theorem jsonArm_texts (f : FieldRead) : Arm.listArmTexts [jsonArm f] = [f.wire] := by
  simp only [jsonArm]
  split <;> simp [mergeInto, some, jsonDecode, decode, call]

theorem xmlScan_defines (fields : List FieldRead) :
    (xmlScan fields).bound? = none ∧ Stmt.listArmTexts [xmlScan fields] = wires fields := by
  have arms : ∀ fields : List FieldRead,
      Arm.listArmTexts (fields.map xmlArm) = fields.map (·.wire) := by
    intro fields
    simp only [Arm.listArmTexts_map, xmlArm_texts, ← List.map_eq_flatMap]
  simp only [xmlScan, wires]
  split
  · rename_i none
    simp [none, tail, run, onStack]
  · simp [tail, bind, onStack, Arm.listArmTexts_append, arms]

theorem jsonScan_defines (fields : List FieldRead) :
    (jsonScan fields).bound? = none ∧ Stmt.listArmTexts [jsonScan fields] = wires fields := by
  have arms : ∀ fields : List FieldRead,
      Arm.listArmTexts (fields.map jsonArm) = fields.map (·.wire) := by
    intro fields
    simp only [Arm.listArmTexts_map, jsonArm_texts, ← List.map_eq_flatMap]
  simp only [jsonScan, wires]
  split
  · rename_i none
    simp [none, run, expect, call]
  · simp [eachEntry, tail, run, expect, call, Arm.listArmTexts_append, arms]

/-- The variables of a decoder: its slots, or the object that it makes otherwise. -/
def decoderLocals : Protocol → DecoderBody → List String
  | _, .struct _ fields => slots fields
  | .json, .scalar _ | .json, .list _ => []
  | _, _ => ["obj"]

def decoderArms : DecoderBody → List String
  | .struct _ fields => wires fields
  | _ => []

theorem xmlBody_defines (type : String) (body : DecoderBody) :
    (xmlBody type body).filterMap Stmt.bound? = decoderLocals .restXml body ∧
      Stmt.listArmTexts (xmlBody type body) = decoderArms body := by
  cases body with
  | scalar kind =>
    simp [xmlBody, List.filterMap_cons, openTag, closeTag, run, onStack, bind, tail, ok, call,
      decoderLocals, decoderArms]
  | list element =>
    simp [xmlBody, List.filterMap_cons, newObject, whileTag, xmlDecode, decode, run, onStack, tail,
      ok, some, call, decoderLocals, decoderArms]
  | map key value keyWire valueWire =>
    simp [xmlBody, List.filterMap_cons, newObject, whileTag, xmlDecode, decode, insertEntry,
      openTag, closeTag, run, onStack, bind, tail, ok, some, call, decoderLocals, decoderArms]
  | struct shape fields =>
    have tags : ∀ tag, (openTag tag).bound? = none ∧ (closeTag tag).bound? = none :=
      fun _ => ⟨rfl, rfl⟩
    rw [xmlBody_struct]
    constructor
    · simp only [List.filterMap_append, bodySlots_bound, headerSlots_bound, List.filterMap_cons,
        xmlScan_defines, finish_defines, tags, List.filterMap_nil]
      simp [decoderLocals, slots]
    · simp only [Stmt.listArmTexts_append, bodySlots_armTexts, headerSlots_armTexts,
        xmlScan_defines, finish_defines]
      simp [openTag, closeTag, run, onStack, decoderArms]

theorem jsonBody_defines (type : String) (body : DecoderBody) :
    (jsonBody type body).filterMap Stmt.bound? = decoderLocals .json body ∧
      Stmt.listArmTexts (jsonBody type body) = decoderArms body := by
  cases body with
  | scalar kind => simp [jsonBody, tail, decoderLocals, decoderArms]
  | list element => simp [jsonBody, expect, tail, call, decoderLocals, decoderArms]
  | map key value keyWire valueWire =>
    simp [jsonBody, List.filterMap_cons, newObject, eachEntry, jsonDecode, decode, insertEntry,
      expect, run, bind, tail, ok, call, decoderLocals, decoderArms]
  | struct shape fields =>
    rw [jsonBody_struct]
    constructor
    · simp only [List.filterMap_append, bodySlots_bound, headerSlots_bound, List.filterMap_cons,
        jsonScan_defines, finish_defines, List.filterMap_nil]
      simp [decoderLocals, slots]
    · simp only [Stmt.listArmTexts_append, bodySlots_armTexts, headerSlots_armTexts,
        jsonScan_defines, finish_defines]
      simp [decoderArms]

theorem decoder_defines (protocol : Protocol) (d : Decoder) :
    ∃ f : Function, decoder protocol d = codecItems (decoderName d.type) f ∧
      f.locals = decoderLocals protocol d.body ∧ f.armTexts = decoderArms d.body := by
  cases protocol with
  | restXml => exact ⟨_, rfl, xmlBody_defines d.type d.body⟩
  | json => exact ⟨_, rfl, jsonBody_defines d.type d.body⟩

theorem setupStep_bound (s : Setup) : (setupStep s).bound? = none := by
  cases s <;> rfl

theorem setupSteps_armTexts (setup : List Setup) :
    Stmt.listArmTexts (setup.map setupStep) = [] := by
  rw [Stmt.listArmTexts_map, List.flatMap_eq_nil_iff]
  rintro (_ | _) _ <;> simp [setupStep, putParam, onRequest, run]

theorem success_armTexts (protocol : Protocol) (output : Option Output) :
    Arm.listArmTexts [success protocol output] = [] := by
  cases output with
  | none => simp [success, ok, call]
  | some o =>
    cases protocol <;>
      simp [success, bind, decodeOutput, responsePart, tail, ok, decode, call]

/-- A method keeps its request and the response to it, and compares no texts. -/
theorem method_defines (protocol : Protocol) (m : Method) :
    (method protocol m).locals = ["request", "response"] ∧ (method protocol m).armTexts = [] := by
  obtain ⟨docs, name, operation, http, uri, setup, input, output⟩ := m
  have arms : ∀ rest, Arm.listArmTexts (success protocol output :: rest) =
      Arm.listArmTexts rest := by
    intro rest
    rw [← List.singleton_append, Arm.listArmTexts_append, success_armTexts, List.nil_append]
  cases input <;>
    simp [Function.locals, Function.armTexts, method, methodBody, List.filterMap_cons,
      setupStep_bound, setupSteps_armTexts, Stmt.listArmTexts_append, arms, bind, tail, run,
      responsePart, call]

/-- The client's own functions are followed by one for each method. -/
theorem client_functions (protocol : Protocol) (c : Client) :
    ∃ type methods, client protocol c = [type, methods] ∧
      type.fieldNames = ["dispatcher", "region"] ∧ type.functions = [] ∧
      methods.fieldNames = [] ∧
      methods.functions = newMethod :: regionMethod :: c.methods.map (method protocol) := by
  refine ⟨_, _, rfl, rfl, rfl, rfl, ?_⟩
  simp [Item.functions, List.filterMap_cons, ImplItem.function?, List.filterMap_map,
    Function.comp_def]

end ServiceClient.Generator.Emit
