import ServiceClient.Proofs.Generator.Assembly
import ServiceClient.Proofs.Generator.EmittedUses
import Mathlib.Data.List.Nodup
import Mathlib.Data.List.Zip

/-! The parts of a module, each made for a shape or for the client, and the names they declare. In a
checked module no name is declared twice, so a declared name has exactly one part. -/

namespace ServiceClient.Generator
open ServiceClient.Code ServiceClient.Codec ServiceClient.Schema ServiceClient.Sequence

/-- What items of a module are made for. -/
inductive Part where
  | prelude
  | decoder (shape : Shape)
  | declaration (shape : Shape)
  | encoder (shape : Shape)
  | client
  deriving DecidableEq

def shapeParts (protocol : Protocol) (shape : Shape) (s : ShapePlan) : List (Part × List Item) :=
  [(.decoder shape, (s.decoder.map (Emit.decoder protocol)).getD []),
    (.declaration shape, (s.declaration.map Emit.declaration).toList),
    (.encoder shape, (s.encoder.map Emit.encoder).getD [])]

def parts (shapes : List Shape) (m : Module) : List (Part × List Item) :=
  (.prelude, [.useAll ["shapegen", "prelude"]]) ::
    (shapes.zip m.shapes).flatMap (fun p => shapeParts m.protocol p.1 p.2) ++
    [(.client, Emit.client m.protocol m.client)]

/-- The parts in order are the whole module. -/
theorem parts_items {shapes : List Shape} {m : Module} (same : shapes.length = m.shapes.length) :
    (parts shapes m).flatMap (·.2) = Emit.items m := by
  have each : ∀ p : Shape × ShapePlan, (shapeParts m.protocol p.1 p.2).flatMap (·.2) =
      Emit.shapeItems m.protocol p.2 := by
    simp [shapeParts, Emit.shapeItems]
  have zipped : (shapes.zip m.shapes).map Prod.snd = m.shapes :=
    List.map_snd_zip (Nat.le_of_eq same.symm)
  calc (parts shapes m).flatMap (·.2)
      = .useAll ["shapegen", "prelude"] :: ((shapes.zip m.shapes).map Prod.snd).flatMap
          (Emit.shapeItems m.protocol) ++ Emit.client m.protocol m.client := by
        simp [parts, List.flatMap_assoc, each, List.flatMap_map]
    _ = Emit.items m := by rw [zipped, Emit.items]

/-- Every declared name with the part that declares it. -/
def declarations (parts : List (Part × List Item)) : List (String × Part) :=
  parts.flatMap fun p => (p.2.filterMap Item.declared?).map (·, p.1)

/-- The part declares the name, and nothing else does. -/
def Declares (parts : List (Part × List Item)) (name : String) (part : Part) : Prop :=
  (declarations parts).filter (·.1 == name) = [(name, part)]

theorem Declares.part_eq {parts : List (Part × List Item)} {name : String} {part other : Part}
    (declared : Declares parts name part) (mem : (name, other) ∈ declarations parts) :
    other = part := by
  have only : (name, other) ∈ [(name, part)] := declared ▸ List.mem_filter.mpr ⟨mem, by simp⟩
  simpa using only

namespace Emit

@[simp] theorem codecItems_declared (name : String) (f : Function) :
    (codecItems name f).filterMap Item.declared? = [name] := by
  simp [codecItems, Item.declared?]

@[simp] theorem declaration_declared (d : Declaration) :
    (declaration d).declared? = Option.some d.name := by
  obtain ⟨docs, name, _ | _ | _⟩ := d <;> simp [declaration, Item.declared?]

theorem encoder_eq_codecItems (e : Encoder) :
    ∃ f : Function, encoder e = codecItems (encoderName e.type) f ∧ f.name = "encode" :=
  ⟨_, rfl, rfl⟩

theorem decoder_eq_codecItems (protocol : Protocol) (d : Decoder) :
    ∃ f : Function, decoder protocol d = codecItems (decoderName d.type) f ∧ f.name = "decode" := by
  cases protocol <;> exact ⟨_, rfl, rfl⟩

end Emit

theorem filter_eq_singleton {α : Type} {entries : List (String × α)}
    (distinct : (entries.map (·.1)).Nodup) {name : String} {a : α} (mem : (name, a) ∈ entries) :
    entries.filter (·.1 == name) = [(name, a)] := by
  induction entries with
  | nil => cases mem
  | cons entry rest ih =>
    rw [List.map_cons, List.nodup_cons] at distinct
    obtain ⟨fresh, distinct⟩ := distinct
    rcases List.mem_cons.mp mem with rfl | mem
    · have others : rest.filter (·.1 == name) = [] := by
        rw [List.filter_eq_nil_iff]
        intro other here same
        have claimed : other.1 ∈ rest.map (·.1) := List.mem_map_of_mem here
        exact fresh (beq_iff_eq.mp same ▸ claimed)
      simp [others]
    · have claimed : name ∈ rest.map (·.1) := List.mem_map_of_mem mem
      have apart : entry.1 ≠ name := fun same => fresh (same ▸ claimed)
      simp [apart, ih distinct mem]

namespace Context

theorem shapePlan_eq_ok {ctx : Context} {shape : Shape} {s : ShapePlan}
    (planned : ctx.shapePlan shape = .ok s) :
    (if ctx.hasDecoder shape.name then ∃ d, ctx.decoder shape = .ok d ∧ s.decoder = some d
      else s.decoder = none) ∧
    ctx.declaration shape = .ok s.declaration ∧
    (if ctx.hasEncoder shape.name then ∃ e, ctx.encoder shape = .ok e ∧ s.encoder = some e
      else s.encoder = none) := by
  have steps : ctx.shapePlan shape = (do
      let decoder ← (if ctx.hasDecoder shape.name then some <$> ctx.decoder shape else .ok none)
      let declaration ← ctx.declaration shape
      let encoder ← (if ctx.hasEncoder shape.name then some <$> ctx.encoder shape else .ok none)
      .ok ⟨decoder, declaration, encoder⟩) := by
    rw [shapePlan]
    by_cases decodes : ctx.hasDecoder shape.name <;>
      by_cases encodes : ctx.hasEncoder shape.name <;> simp only [decodes, encodes] <;> rfl
  simp only [steps, bind_eq_ok] at planned
  obtain ⟨decoder, decoded, declaration, declared, encoder, encoded, made⟩ := planned
  cases made
  refine ⟨?_, declared, ?_⟩
  · split at decoded
    · obtain ⟨d, made, rfl⟩ := map_eq_ok.mp decoded
      simp [*]
    · cases decoded
      simp [*]
  · split at encoded
    · obtain ⟨e, made, rfl⟩ := map_eq_ok.mp encoded
      simp [*]
    · cases encoded
      simp [*]

theorem encoder_eq_ok {ctx : Context} {shape : Shape} {e : Encoder} {type : String}
    (typed : ctx.names.typeName shape.name = .ok type) (made : ctx.encoder shape = .ok e) :
    e.type = type ∧ ctx.encoderBody shape.kind = .ok e.body := by
  simp only [encoder, typed, bind_eq_ok] at made
  obtain ⟨_, ⟨⟩, body, made, ⟨⟩⟩ := made
  exact ⟨rfl, made⟩

theorem decoder_eq_ok {ctx : Context} {shape : Shape} {d : Decoder} {type : String}
    (typed : ctx.names.typeName shape.name = .ok type) (made : ctx.decoder shape = .ok d) :
    d.type = type ∧ ctx.decoderBody shape.name shape.kind = .ok d.body := by
  simp only [decoder, typed, bind_eq_ok] at made
  obtain ⟨_, ⟨⟩, body, made, ⟨⟩⟩ := made
  exact ⟨rfl, made⟩

/-- What the body of an encoder is made from, kind by kind. -/
theorem encoderBody_eq_ok {ctx : Context} {kind : ShapeKind} {body : EncoderBody} :
    ctx.encoderBody kind = .ok body → match kind with
    | .primitive _ => body = .scalar
    | .list element => ∃ type, ctx.names.typeName element.shape = .ok type ∧ body = .list type
    | .map key value => ∃ k v, ctx.names.typeName key.shape = .ok k ∧
        ctx.names.typeName value.shape = .ok v ∧
          body = .map k v (keyWireName key) (valueWireName value)
    | .struct s => ∃ plans, ctx.memberPlans s = .ok plans ∧
        body = .struct (plans.map fun p => ⟨p.field, p.required, ctx.writeTarget s p⟩) := by
  intro made
  cases kind with
  | primitive k =>
    cases made
    rfl
  | list element =>
    obtain ⟨type, typed, ⟨⟩⟩ := bind_eq_ok.mp made
    exact ⟨type, typed, rfl⟩
  | map key value =>
    obtain ⟨k, keyTyped, made⟩ := bind_eq_ok.mp made
    obtain ⟨v, valueTyped, ⟨⟩⟩ := bind_eq_ok.mp made
    exact ⟨k, v, keyTyped, valueTyped, rfl⟩
  | struct s =>
    obtain ⟨plans, planned, ⟨⟩⟩ := bind_eq_ok.mp made
    exact ⟨plans, planned, rfl⟩

/-- What the body of a decoder is made from, kind by kind. -/
theorem decoderBody_eq_ok {ctx : Context} {name : String} {kind : ShapeKind}
    {body : DecoderBody} : ctx.decoderBody name kind = .ok body → match kind with
    | .primitive k => body = .scalar k
    | .list element => ∃ type, ctx.names.typeName element.shape = .ok type ∧ body = .list type
    | .map key value => ∃ k v, ctx.names.typeName key.shape = .ok k ∧
        ctx.names.typeName value.shape = .ok v ∧
          body = .map k v (keyWireName key) (valueWireName value)
    | .struct s => ∃ plans, ctx.memberPlans s = .ok plans ∧
        body = .struct name (plans.map readField) := by
  intro made
  cases kind with
  | primitive k =>
    cases made
    rfl
  | list element =>
    obtain ⟨type, typed, ⟨⟩⟩ := bind_eq_ok.mp made
    exact ⟨type, typed, rfl⟩
  | map key value =>
    obtain ⟨k, keyTyped, made⟩ := bind_eq_ok.mp made
    obtain ⟨v, valueTyped, ⟨⟩⟩ := bind_eq_ok.mp made
    exact ⟨k, v, keyTyped, valueTyped, rfl⟩
  | struct s =>
    obtain ⟨plans, planned, ⟨⟩⟩ := bind_eq_ok.mp made
    exact ⟨plans, planned, rfl⟩

/-- What the body of a declaration is made from, kind by kind. -/
theorem typeBody_eq_ok {ctx : Context} {shape : Shape} {body : TypeBody} :
    ctx.typeBody shape = .ok body → match shape.kind with
    | .primitive k => body = .alias (.primitive k)
    | .list element => ∃ type, ctx.names.typeName element.shape = .ok type ∧
        body = .alias (.list type)
    | .map key value => ∃ k v, ctx.names.typeName key.shape = .ok k ∧
        ctx.names.typeName value.shape = .ok v ∧ body = .alias (.map k v)
    | .struct s => ∃ fields, body = .struct fields ∧
        List.Forall₂ (fun m f => ctx.fieldDeclaration s m.1 m.2 = .ok f) s.members fields := by
  intro made
  cases kind : shape.kind with
  | primitive k =>
    simp only [typeBody, alias?, kind, bind, Except.bind] at made
    cases made
    rfl
  | list element =>
    simp only [typeBody, alias?, kind, bind_eq_ok] at made
    obtain ⟨_, ⟨type, typed, ⟨⟩⟩, ⟨⟩⟩ := made
    exact ⟨type, typed, rfl⟩
  | map key value =>
    simp only [typeBody, alias?, kind, bind_eq_ok] at made
    obtain ⟨_, ⟨k, keyTyped, v, valueTyped, ⟨⟩⟩, ⟨⟩⟩ := made
    exact ⟨k, v, keyTyped, valueTyped, rfl⟩
  | struct s =>
    simp only [typeBody, alias?, kind, Shape.structure?, Option.getD_some, bind_eq_ok] at made
    obtain ⟨_, ⟨⟩, made⟩ := made
    obtain ⟨fields, declared, ⟨⟩⟩ := bind_eq_ok.mp made
    exact ⟨fields, rfl, mapM_eq_ok.mp declared⟩

theorem declaration_eq_ok {ctx : Context} {shape : Shape} {declaration : Option Declaration}
    {type : String} (typed : ctx.names.typeName shape.name = .ok type)
    (made : ctx.declaration shape = .ok declaration) :
    if isNativeString shape then declaration = none
    else ∃ body, ctx.typeBody shape = .ok body ∧
      declaration = some ⟨Docs.ofOptional shape.documentation, type, body⟩ := by
  simp only [Context.declaration, typed] at made
  split at made
  · cases made
    simp [*]
  · simp only [bind_eq_ok] at made
    obtain ⟨name, same, body, made, whole⟩ := made
    cases same
    cases whole
    simp [*]

/-- What a method has from its operation: names as they are resolved, and all else as it is. -/
structure MethodOf (ctx : Context) (o : Operation) (method : Method) : Prop where
  name : ctx.names.snakeName o.name = .ok method.name
  operation : method.operation = o.name
  setup : method.setup = ctx.setup o
  input : List.Forall₂ (fun shape type => ctx.names.typeName shape = .ok type) o.input.toList
    method.input.toList
  output : List.Forall₂ (fun shape (output : Output) => output.shape = shape ∧
    ∃ target, ctx.service.shape? shape = some target ∧ ctx.names.typeName shape = .ok output.type)
    o.output.toList method.output.toList

theorem method_eq_ok {ctx : Context} {o : Operation} {method : Method}
    (made : ctx.method o = .ok method) : MethodOf ctx o method := by
  simp only [Context.method, bind_eq_ok] at made
  obtain ⟨name, named, input, taken, output, given, ⟨⟩⟩ := made
  refine ⟨named, rfl, rfl, optionMapM_eq_ok.mp taken,
    (optionMapM_eq_ok.mp given).imp fun shape output made => ?_⟩
  obtain ⟨target, resolved, made⟩ := bind_eq_ok.mp made
  obtain ⟨type, typed, ⟨⟩⟩ := bind_eq_ok.mp made
  have found := shape_eq_ok.mp resolved
  obtain ⟨-, rfl⟩ := Service.shape?_eq_some found
  exact ⟨rfl, target, found, typed⟩

namespace MethodOf
variable {ctx : Context} {o : Operation} {method : Method} (h : MethodOf ctx o method)
include h

theorem input_eq_none (absent : o.input = none) : method.input = none := by
  have inputs := h.input
  cases own : method.input with
  | none => rfl
  | some type => simp [absent, own] at inputs

theorem output_eq_none (absent : o.output = none) : method.output = none := by
  have outputs := h.output
  cases own : method.output with
  | none => rfl
  | some output => simp [absent, own] at outputs

theorem exists_input {shape : String} (taken : o.input = some shape) :
    ∃ type, method.input = some type ∧ ctx.names.typeName shape = .ok type := by
  have inputs := h.input
  rw [taken, Option.toList_some] at inputs
  cases own : method.input with
  | none => simp [own] at inputs
  | some type => exact ⟨type, rfl, by simpa [own] using inputs⟩

theorem exists_output {shape : String} (given : o.output = some shape) :
    ∃ type target, method.output = some ⟨type, shape⟩ ∧ ctx.service.shape? shape = some target ∧
      ctx.names.typeName shape = .ok type := by
  have outputs := h.output
  rw [given, Option.toList_some] at outputs
  cases own : method.output with
  | none => simp [own] at outputs
  | some output =>
    obtain ⟨rfl, target, found, typed⟩ : output.shape = shape ∧ ∃ target,
        ctx.service.shape? shape = some target ∧ ctx.names.typeName shape = .ok output.type := by
      simpa [own] using outputs
    exact ⟨output.type, target, rfl, found, typed⟩

end MethodOf

/-- What the parts of a shape declare. -/
theorem shapeParts_declarations {ctx : Context} {shape : Shape} {s : ShapePlan} {type : String}
    (typed : ctx.names.typeName shape.name = .ok type) (planned : ctx.shapePlan shape = .ok s)
    (protocol : Protocol) :
    declarations (shapeParts protocol shape s) =
      (if ctx.hasDecoder shape.name then [(Emit.decoderName type, Part.decoder shape)] else []) ++
        (if isNativeString shape then [] else [(type, Part.declaration shape)]) ++
        if ctx.hasEncoder shape.name then [(Emit.encoderName type, Part.encoder shape)] else [] := by
  obtain ⟨decoded, declared, encoded⟩ := shapePlan_eq_ok planned
  have split : declarations (shapeParts protocol shape s) =
      declarations [(.decoder shape, (s.decoder.map (Emit.decoder protocol)).getD [])] ++
      declarations [(.declaration shape, (s.declaration.map Emit.declaration).toList)] ++
      declarations [(.encoder shape, (s.encoder.map Emit.encoder).getD [])] := by
    simp [declarations, shapeParts]
  have decoders : declarations
      [(.decoder shape, (s.decoder.map (Emit.decoder protocol)).getD [])] =
      if ctx.hasDecoder shape.name then [(Emit.decoderName type, .decoder shape)] else [] := by
    by_cases decodes : ctx.hasDecoder shape.name
    · simp only [decodes, if_true] at decoded
      obtain ⟨d, made, found⟩ := decoded
      obtain ⟨f, items, -⟩ := Emit.decoder_eq_codecItems protocol d
      simp [declarations, found, decodes, items, (decoder_eq_ok typed made).1]
    · simp only [decodes, Bool.false_eq_true, if_false] at decoded
      simp [declarations, decoded, decodes]
  have types : declarations
      [(.declaration shape, (s.declaration.map Emit.declaration).toList)] =
      if isNativeString shape then [] else [(type, .declaration shape)] := by
    have made := declaration_eq_ok typed declared
    by_cases native : isNativeString shape
    · simp only [native, if_true] at made
      simp [declarations, made, native]
    · simp only [native, Bool.false_eq_true, if_false] at made
      obtain ⟨body, -, found⟩ := made
      simp [declarations, found, native]
  have encoders : declarations [(.encoder shape, (s.encoder.map Emit.encoder).getD [])] =
      if ctx.hasEncoder shape.name then [(Emit.encoderName type, .encoder shape)] else [] := by
    by_cases encodes : ctx.hasEncoder shape.name
    · simp only [encodes, if_true] at encoded
      obtain ⟨e, made, found⟩ := encoded
      obtain ⟨f, items, -⟩ := Emit.encoder_eq_codecItems e
      simp [declarations, found, encodes, items, (encoder_eq_ok typed made).1]
    · simp only [encodes, Bool.false_eq_true, if_false] at encoded
      simp [declarations, encoded, encodes]
  rw [split, decoders, types, encoders]

theorem plan_eq_ok {ctx : Context} {m : Module} (planned : ctx.plan = .ok m) :
    m.protocol = ctx.protocol ∧
      List.Forall₂ (fun shape s => ctx.shapePlan shape = .ok s) ctx.service.shapes m.shapes ∧
      m.client.name = ctx.names.clientName ∧
      List.Forall₂ (fun o method => ctx.method o = .ok method) ctx.service.operations
        m.client.methods := by
  simp only [plan, client, bind_eq_ok] at planned
  obtain ⟨shapes, shaped, client, ⟨methods, called, whole⟩, made⟩ := planned
  cases whole
  cases made
  exact ⟨rfl, mapM_eq_ok.mp shaped, rfl, mapM_eq_ok.mp called⟩

theorem itemNames_perm {ctx : Context} {shape : Shape} {s : ShapePlan} {type : String}
    (typed : ctx.names.typeName shape.name = .ok type) (planned : ctx.shapePlan shape = .ok s)
    (protocol : Protocol) :
    ((declarations (shapeParts protocol shape s)).map fun d => Except.ok d.1).Perm
      ((ctx.itemNames shape).map (·.1)) := by
  have encoder : ctx.names.encoderName shape.name = .ok (Emit.encoderName type) :=
    Names.encoderName_eq_ok.mpr ⟨type, typed, rfl⟩
  have decoder : ctx.names.decoderName shape.name = .ok (Emit.decoderName type) :=
    Names.decoderName_eq_ok.mpr ⟨type, typed, rfl⟩
  rw [shapeParts_declarations typed planned, itemNames, typed, encoder, decoder, List.append_assoc]
  refine (List.perm_append_comm.map _).trans ?_
  by_cases native : isNativeString shape <;> by_cases encodes : ctx.hasEncoder shape.name <;>
    by_cases decodes : ctx.hasDecoder shape.name <;> simp [native, encodes, decodes]

theorem parts_declarations (shapes : List Shape) (m : Module) :
    declarations (parts shapes m) =
      (shapes.zip m.shapes).flatMap (fun p => declarations (shapeParts m.protocol p.1 p.2)) ++
        [(m.client.name, Part.client)] := by
  simp [declarations, parts, Emit.client, List.flatMap_assoc, List.filterMap_cons, Item.declared?]

end Context

theorem zip_flatMap_perm {α β γ : Type} {xs : List α} {ys : List β} {f : α × β → List γ}
    {g : α → List γ} (h : List.Forall₂ (fun x y => (f (x, y)).Perm (g x)) xs ys) :
    ((xs.zip ys).flatMap f).Perm (xs.flatMap g) := by
  induction h with
  | nil => exact .nil
  | cons first _ ih => exact first.append ih

theorem exists_mem_zip {α β : Type} {R : α → β → Prop} {xs : List α} {ys : List β}
    (h : List.Forall₂ R xs ys) {x : α} (mem : x ∈ xs) : ∃ y, (x, y) ∈ xs.zip ys ∧ R x y := by
  induction h with
  | nil => cases mem
  | cons first _ ih =>
    rcases List.mem_cons.mp mem with rfl | mem
    · exact ⟨_, List.mem_cons_self, first⟩
    · obtain ⟨y, here, related⟩ := ih mem
      exact ⟨y, List.mem_cons_of_mem _ here, related⟩

theorem exists_zip_mem {α β : Type} {R : α → β → Prop} {xs : List α} {ys : List β}
    (h : List.Forall₂ R xs ys) {y : β} (mem : y ∈ ys) : ∃ x, (x, y) ∈ xs.zip ys ∧ R x y := by
  obtain ⟨x, here, related⟩ := exists_mem_zip h.flip mem
  refine ⟨x, ?_, related⟩
  rw [← List.zip_swap, List.mem_map]
  exact ⟨(y, x), here, rfl⟩

theorem mem_parts {shapes : List Shape} {m : Module} {shape : Shape} {s : ShapePlan}
    (mem : (shape, s) ∈ shapes.zip m.shapes) {part : Part × List Item}
    (here : part ∈ shapeParts m.protocol shape s) : part ∈ parts shapes m :=
  List.mem_append_left _ (List.mem_cons_of_mem _ (List.mem_flatMap.mpr ⟨(shape, s), mem, here⟩))

theorem mem_declarations {shapes : List Shape} {m : Module} {shape : Shape} {s : ShapePlan}
    (mem : (shape, s) ∈ shapes.zip m.shapes) {d : String × Part}
    (here : d ∈ declarations (shapeParts m.protocol shape s)) :
    d ∈ declarations (parts shapes m) := by
  obtain ⟨part, inside, named⟩ := List.mem_flatMap.mp here
  exact List.mem_flatMap.mpr ⟨part, mem_parts mem inside, named⟩

namespace Context.Checked
variable {ctx : Context} {m : Module}

/-- No two parts of a checked module declare the same name. -/
theorem declarations_nodup (h : ctx.Checked) (planned : ctx.plan = .ok m) :
    ((declarations (parts ctx.service.shapes m)).map (·.1)).Nodup := by
  obtain ⟨-, shaped, client, -⟩ := plan_eq_ok planned
  have unique := (Context.validate_eq_ok.mp h.valid).2.2.1
  obtain ⟨names, resolved, distinct, -⟩ := claimNames_eq_ok unique
  have each : List.Forall₂ (fun shape s =>
      ((declarations (shapeParts m.protocol shape s)).map fun d => Except.ok d.1).Perm
        ((ctx.itemNames shape).map (·.1))) ctx.service.shapes m.shapes := by
    refine ((List.forall₂_and_left _ _).mpr ⟨fun _ mem => mem, shaped⟩).imp ?_
    rintro shape s ⟨mem, made⟩
    obtain ⟨type, typed⟩ := h.exists_ownType mem
    exact itemNames_perm typed made m.protocol
  have same : ((declarations (parts ctx.service.shapes m)).map fun d => Except.ok d.1).Perm
      (names.map (Except.ok : String → Except Error String)) := by
    rw [← resolved, Context.parts_declarations, client, List.map_append, List.map_append,
      List.map_flatMap, List.map_flatMap]
    exact (zip_flatMap_perm each).append_right _
  have different : (names.map (Except.ok : String → Except Error String)).Nodup :=
    distinct.map fun _ _ same => Except.ok.inj same
  have images : (((declarations (parts ctx.service.shapes m)).map (·.1)).map
      (Except.ok : String → Except Error String)).Nodup := by
    rw [List.map_map]
    exact same.nodup_iff.mpr different
  exact images.of_map

section Shapes
variable (h : ctx.Checked) (planned : ctx.plan = .ok m) {target : Shape}
  (mem : target ∈ ctx.service.shapes) {type : String}
  (typed : ctx.names.typeName target.name = .ok type)
include h planned mem typed

theorem declares_type (plain : ¬isNativeString target) :
    Declares (parts ctx.service.shapes m) type (.declaration target) := by
  obtain ⟨s, here, made⟩ := exists_mem_zip (plan_eq_ok planned).2.1 mem
  refine filter_eq_singleton (h.declarations_nodup planned) (mem_declarations here ?_)
  simp [shapeParts_declarations typed made, plain]

theorem declares_encoder (encodes : ctx.hasEncoder target.name) :
    Declares (parts ctx.service.shapes m) (Emit.encoderName type) (.encoder target) := by
  obtain ⟨s, here, made⟩ := exists_mem_zip (plan_eq_ok planned).2.1 mem
  refine filter_eq_singleton (h.declarations_nodup planned) (mem_declarations here ?_)
  simp [shapeParts_declarations typed made, encodes]

theorem declares_decoder (decodes : ctx.hasDecoder target.name) :
    Declares (parts ctx.service.shapes m) (Emit.decoderName type) (.decoder target) := by
  obtain ⟨s, here, made⟩ := exists_mem_zip (plan_eq_ok planned).2.1 mem
  refine filter_eq_singleton (h.declarations_nodup planned) (mem_declarations here ?_)
  simp [shapeParts_declarations typed made, decodes]

omit h in
/-- The plan of a shape has its encoder. -/
theorem exists_plan_encoder (encodes : ctx.hasEncoder target.name) :
    ∃ s e, (target, s) ∈ ctx.service.shapes.zip m.shapes ∧ ctx.shapePlan target = .ok s ∧
      s.encoder = some e ∧ e.type = type ∧ ctx.encoderBody target.kind = .ok e.body := by
  obtain ⟨s, here, made⟩ := exists_mem_zip (plan_eq_ok planned).2.1 mem
  have encoded := (shapePlan_eq_ok made).2.2
  rw [if_pos encodes] at encoded
  obtain ⟨e, own, found⟩ := encoded
  exact ⟨s, e, here, made, found, encoder_eq_ok typed own⟩

omit h in
/-- The plan of a shape has its decoder. -/
theorem exists_plan_decoder (decodes : ctx.hasDecoder target.name) :
    ∃ s d, (target, s) ∈ ctx.service.shapes.zip m.shapes ∧ ctx.shapePlan target = .ok s ∧
      s.decoder = some d ∧ d.type = type ∧
      ctx.decoderBody target.name target.kind = .ok d.body := by
  obtain ⟨s, here, made⟩ := exists_mem_zip (plan_eq_ok planned).2.1 mem
  have decoded := (shapePlan_eq_ok made).1
  rw [if_pos decodes] at decoded
  obtain ⟨d, own, found⟩ := decoded
  exact ⟨s, d, here, made, found, decoder_eq_ok typed own⟩

omit h in
theorem exists_encoder_part (encodes : ctx.hasEncoder target.name) :
    ∃ f : Function, (.encoder target, Emit.codecItems (Emit.encoderName type) f) ∈
      parts ctx.service.shapes m ∧ f.name = "encode" := by
  obtain ⟨s, e, here, -, found, rfl, -⟩ := exists_plan_encoder planned mem typed encodes
  obtain ⟨f, items, named⟩ := Emit.encoder_eq_codecItems e
  refine ⟨f, mem_parts here ?_, named⟩
  simp [shapeParts, found, items]

omit h in
theorem exists_decoder_part (decodes : ctx.hasDecoder target.name) :
    ∃ f : Function, (.decoder target, Emit.codecItems (Emit.decoderName type) f) ∈
      parts ctx.service.shapes m ∧ f.name = "decode" := by
  obtain ⟨s, d, here, -, found, rfl, -⟩ := exists_plan_decoder planned mem typed decodes
  obtain ⟨f, items, named⟩ := Emit.decoder_eq_codecItems m.protocol d
  refine ⟨f, mem_parts here ?_, named⟩
  simp [shapeParts, found, items]

end Shapes

end Context.Checked
end ServiceClient.Generator
