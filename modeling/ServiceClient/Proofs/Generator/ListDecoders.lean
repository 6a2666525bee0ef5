import ServiceClient.Proofs.Codec.ListElements
import ServiceClient.Proofs.Generator.Closure

/-! The list decoders of a checked service, and how many items they read from a run of elements. -/

namespace ServiceClient.Generator
open ServiceClient.Codec ServiceClient.Markup ServiceClient.Schema ServiceClient.Sequence
open ServiceClient.Wire

namespace Context.Checked
variable {ctx : Context} {m : Module}

section Lookup
variable (h : ctx.Checked) (planned : ctx.plan = .ok m) {shape : Shape}
  (mem : shape ∈ ctx.service.shapes) {type : String}
  (typed : ctx.names.typeName shape.name = .ok type) (decodes : ctx.hasDecoder shape.name)
include h planned mem typed decodes

/-- No other plan has a decoder of the type. -/
theorem plan_of_decoder {plan : ShapePlan} (here : plan ∈ m.shapes) {d : Decoder}
    (emitted : plan.decoder = some d) (named : d.type = type) :
    ctx.shapePlan shape = .ok plan := by
  obtain ⟨other, zipped, made⟩ := exists_zip_mem (plan_eq_ok planned).2.1 here
  obtain ⟨type', typed'⟩ := h.exists_ownType (List.of_mem_zip zipped).1
  have decoded := (shapePlan_eq_ok made).1
  split at decoded
  · rename_i decodes'
    obtain ⟨d', own, found⟩ := decoded
    obtain rfl : d = d' := Option.some.inj (emitted.symm.trans found)
    obtain rfl : type = type' := named.symm.trans (decoder_eq_ok typed' own).1
    -- One part only declares the name of the decoder, which tells for which shape it was made.
    have declared : (Emit.decoderName type, Part.decoder other) ∈
        declarations (parts ctx.service.shapes m) :=
      mem_declarations zipped (by simp [shapeParts_declarations typed' made, decodes'])
    obtain ⟨⟩ := (h.declares_decoder planned mem typed decodes).part_eq declared
    exact made
  · rw [decoded] at emitted
    cases emitted

/-- The decoder of a shape is the one that is found under its type. -/
theorem decoderBody?_eq :
    ∃ body, ctx.decoderBody shape.name shape.kind = .ok body ∧ m.decoderBody? type = some body := by
  obtain ⟨plan, d, here, made, emitted, own, body⟩ :=
    exists_plan_decoder planned mem typed decodes
  have only : m.decoder? type = some d := by
    refine findSome?_eq_some_of_only (List.of_mem_zip here).2 (by simp [emitted, own]) ?_
    intro plan' here' d' found
    obtain ⟨emitted', named⟩ := Option.filter_eq_some_iff.mp found
    have made' := h.plan_of_decoder planned mem typed decodes here' emitted' (eq_of_beq named)
    exact Except.ok.inj (made'.symm.trans made)
  exact ⟨d.body, body, by rw [Module.decoderBody?, only, Option.map_some]⟩

/-- Decoders of primitives and structures take one element. -/
theorem isSingle_eq : m.isSingle type = shape.collection?.isNone := by
  obtain ⟨body, made, found⟩ := h.decoderBody?_eq planned mem typed decodes
  rw [Module.isSingle, found]
  have made := decoderBody_eq_ok made
  cases kind : shape.kind with
  | primitive k =>
    simp only [kind] at made
    subst made
    simp [Shape.collection?, kind]
  | list element =>
    simp only [kind] at made
    obtain ⟨type, -, rfl⟩ := made
    simp [Shape.collection?, kind]
  | map key value =>
    simp only [kind] at made
    obtain ⟨keyType, valueType, -, -, rfl⟩ := made
    simp [Shape.collection?, kind]
  | struct s =>
    simp only [kind] at made
    obtain ⟨plans, -, rfl⟩ := made
    simp [Shape.collection?, kind]

end Lookup

end Context.Checked

/-- In a checked XML service, the decoder of a list keeps the elements of every run that it decodes,
unless its items are lists or maps; these take the run as one. -/
theorem list_items_of_elements {text : String} {service : Service} {config : Config}
    {ctx : Context} (loaded : Service.load text = .ok service)
    (made : Context.new service config = .ok ctx) (valid : ctx.validate = .ok ())
    (xml : ctx.protocol = .restXml) :
    ∃ m, ctx.plan = .ok m ∧ m.protocol = .restXml ∧ ∀ shape ∈ service.shapes, ∀ element target,
      shape.kind = .list element → service.shape? element.shape = some target →
      ctx.hasDecoder shape.name → ∃ type elementType,
        ctx.names.typeName shape.name = .ok type ∧
        ctx.names.typeName element.shape = .ok elementType ∧
        if target.collection? = none then m.KeepsElements type elementType
        else m.MergesElements type := by
  have h := Context.Checked.ofLoad loaded made valid
  obtain ⟨rfl, -⟩ := Context.new_eq_ok made
  obtain ⟨m, planned⟩ := h.exists_plan
  refine ⟨m, planned, (Context.plan_eq_ok planned).1.trans xml, ?_⟩
  intro shape mem element target kind found decodes
  obtain ⟨mem', named⟩ := Service.shape?_eq_some found
  obtain ⟨type, typed⟩ := h.exists_ownType mem
  obtain ⟨body, resolved, own⟩ := h.decoderBody?_eq planned mem typed decodes
  obtain ⟨elementType, elementTyped, rfl⟩ := Context.decoderBody_eq_ok (kind ▸ resolved)
  have dependency : ("member", element.shape) ∈ decoderDependencies shape := by
    simp [decoderDependencies, Shape.parts, kind]
  have single := h.isSingle_eq planned mem' (named ▸ elementTyped)
    (named ▸ h.hasDecoder_of_dependency mem decodes dependency)
  refine ⟨type, elementType, typed, elementTyped, ?_⟩
  split
  · rename_i plain
    exact Module.keepsElements_of_single own (by rw [single, plain]; rfl)
  · rename_i collects
    refine Module.mergesElements_of_collection own ?_
    rw [single, Option.isNone_eq_false_iff, Option.isSome_iff_ne_none]
    exact collects

theorem nodes_list_items : Service.load nodesText = .ok nodes ∧
    ∃ ctx, Context.new nodes {} = .ok ctx ∧ ctx.validate = .ok () ∧ ctx.protocol = .restXml ∧
      ∃ m, ctx.plan = .ok m ∧ ∃ type elementType, ctx.names.typeName "Kids" = .ok type ∧
        ctx.names.typeName "Node" = .ok elementType ∧ m.KeepsElements type elementType := by
  obtain ⟨ctx, made, valid⟩ := exists_context_nodes
  have settled : ((Context.new nodes {}).toOption.map fun ctx =>
      (ctx.protocol, ctx.hasDecoder "Kids")) = some (.restXml, true) := rfl
  rw [made] at settled
  obtain ⟨xml, decodes⟩ := Prod.mk.inj (Option.some.inj settled)
  obtain ⟨m, planned, -, lists⟩ := list_items_of_elements load_nodesText made valid xml
  obtain ⟨type, elementType, typed, elementTyped, keeps⟩ :=
    lists ⟨"Kids", .list { shape := "Node" }, none⟩ (by simp [nodes]) { shape := "Node" } _ rfl rfl
      decodes
  exact ⟨load_nodesText, ctx, made, valid, xml, m, planned, type, elementType, typed, elementTyped,
    keeps⟩

/-- A list of lists. -/
def gridsText : String :=
  "\x7b\"metadata\":[\"grids\",\"rest-xml\"],
    \"shapes\":\x7b\"Grid\":\x7b\"type\":\"list\",\"member\":[\"Row\"]\x7d,
    \"Row\":\x7b\"type\":\"list\",\"member\":[\"String\"]\x7d,
    \"String\":[\"string\"]\x7d\x7d"

def grids : Service where
  metadata := { endpointPrefix := "grids", protocol := some "rest-xml" }
  operations := []
  shapes :=
    [ { name := "Grid", kind := .list { shape := "Row" } },
      { name := "Row", kind := .list { shape := "String" } },
      { name := "String", kind := .primitive .string } ]

set_option maxRecDepth 4000 in
theorem load_gridsText : Service.load gridsText = .ok grids :=
  Service.load_ofList (by decide +kernel)

/-- Two rows of one cell each. -/
def gridEvents : List Event :=
  [.opening "Row", .text "a", .closing "Row", .opening "Row", .text "b", .closing "Row"]

/-- The rows that a grid was decoded to, where their cells are text. -/
def gridRows : Codec.Value → List (List String)
  | .list rows => rows.map fun row =>
    match row with
    | .list cells => cells.map fun cell =>
      match cell with
      | .scalar (.text s) => s
      | _ => ""
    | _ => []
  | _ => []

/-- The two rows are decoded as one. -/
theorem rows_merged : Service.load gridsText = .ok grids ∧
    ∃ ctx m v, Context.new grids {} = .ok ctx ∧ ctx.validate = .ok () ∧ ctx.plan = .ok m ∧
      Reading.Yields (m.decodeXml [] "Grid" "Row") gridEvents v [] ∧
      gridRows v = [["a", "b"]] := by
  have planned : (((planService grids {}).toOption.bind fun m =>
      (m.decodeXml [] "Grid" "Row").run gridEvents).map fun read =>
        (read.1.toOption.map gridRows, read.2)) = some (some [["a", "b"]], []) := by
    rfl
  obtain ⟨⟨result, left⟩, decoded, same⟩ := Option.map_eq_some_iff.mp planned
  obtain ⟨m, made, ran⟩ := Option.bind_eq_some_iff.mp decoded
  obtain ⟨ctx, new, checked⟩ := bind_eq_ok.mp (eq_ok_of_toOption made)
  obtain ⟨valid, resolved⟩ := then_eq_ok.mp checked
  obtain ⟨shown, rfl⟩ := Prod.mk.inj same
  obtain ⟨v, read, rows⟩ := Option.map_eq_some_iff.mp shown
  obtain rfl : result = .ok v := eq_ok_of_toOption read
  exact ⟨load_gridsText, ctx, m, v, new, valid, resolved, ran, rows⟩

end ServiceClient.Generator
