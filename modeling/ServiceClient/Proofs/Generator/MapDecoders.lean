import ServiceClient.Proofs.Codec.JsonMaps
import ServiceClient.Proofs.Generator.AliasExpansion
import ServiceClient.Proofs.Generator.ListDecoders

/-! The map decoders of a checked JSON service, and which of several members for one key they
keep. -/

namespace ServiceClient.Generator
open ServiceClient.Codec ServiceClient.Schema ServiceClient.Sequence ServiceClient.Wire

/-- In a checked JSON service, the decoder of a map keeps the first member in document order for
each of its names, and of several names for one key the least. -/
theorem json_maps_keep_least_name {text : String} {service : Service} {config : Config}
    {ctx : Context} (loaded : Service.load text = .ok service)
    (made : Context.new service config = .ok ctx) (valid : ctx.validate = .ok ())
    (json : ctx.protocol = .json) :
    ∃ m, ctx.plan = .ok m ∧ m.protocol = .json ∧ ∀ shape ∈ service.shapes, ∀ key value,
      shape.kind = .map key value → ctx.hasDecoder shape.name → ∃ target kind type valueType,
        service.shape? key.shape = some target ∧ target.kind = .primitive kind ∧
        kind.isOrderable ∧ ctx.names.typeName shape.name = .ok type ∧
        ctx.names.typeName value.shape = .ok valueType ∧ m.DecodesMaps type kind valueType := by
  have h := Context.Checked.ofLoad loaded made valid
  obtain ⟨rfl, -⟩ := Context.new_eq_ok made
  obtain ⟨m, planned⟩ := h.exists_plan
  refine ⟨m, planned, (Context.plan_eq_ok planned).1.trans json, ?_⟩
  intro shape mem key value kind decodes
  obtain ⟨target, k, found, primitive, orderable⟩ := h.exists_keyKind mem kind
  obtain ⟨mem', named⟩ := Service.shape?_eq_some found
  obtain ⟨type, typed⟩ := h.exists_ownType mem
  obtain ⟨body, resolved, own⟩ := h.decoderBody?_eq planned mem typed decodes
  obtain ⟨keyType, valueType, keyTyped, valueTyped, rfl⟩ :=
    Context.decoderBody_eq_ok (kind ▸ resolved)
  have dependency : ("key", key.shape) ∈ decoderDependencies shape := by
    simp [decoderDependencies, Shape.parts, kind]
  obtain ⟨keyBody, resolved, keyOwn⟩ := h.decoderBody?_eq planned mem' (named ▸ keyTyped)
    (named ▸ h.hasDecoder_of_dependency mem decodes dependency)
  obtain rfl : keyBody = .scalar k := Context.decoderBody_eq_ok (primitive ▸ resolved)
  have keyed : m.scalarKind? keyType = some k := by rw [Module.scalarKind?, keyOwn]
  exact ⟨target, k, type, valueType, found, primitive, orderable, typed, valueTyped,
    Module.decodesMaps own keyed orderable⟩

/-- A map with numbers for its keys. -/
def countsText : String :=
  "\x7b\"metadata\":[\"counts\",\"json\"],
    \"shapes\":\x7b\"Counts\":\x7b\"type\":\"map\",\"key\":[\"Number\"],\"value\":[\"String\"]\x7d,
    \"Number\":[\"integer\"],\"String\":[\"string\"]\x7d\x7d"

def counts : Service where
  metadata := { endpointPrefix := "counts", protocol := some "json" }
  operations := []
  shapes :=
    [ { name := "Counts", kind := .map { shape := "Number" } { shape := "String" } },
      { name := "Number", kind := .primitive .integer },
      { name := "String", kind := .primitive .string } ]

set_option maxRecDepth 4000 in
theorem load_countsText : Service.load countsText = .ok counts :=
  Service.load_ofList (by decide +kernel)

theorem settled_counts {ctx : Context} (made : Context.new counts {} = .ok ctx) :
    ctx.protocol = .json ∧ ctx.hasDecoder "Counts" := by
  have settled : ((Context.new counts {}).toOption.map fun ctx =>
      (ctx.protocol, ctx.hasDecoder "Counts")) = some (.json, true) := rfl
  rw [made] at settled
  exact Prod.mk.inj (Option.some.inj settled)

theorem counts_keep_least_name : Service.load countsText = .ok counts ∧
    ∃ ctx m type valueType, Context.new counts {} = .ok ctx ∧ ctx.validate = .ok () ∧
      ctx.protocol = .json ∧ ctx.plan = .ok m ∧ ctx.names.typeName "Counts" = .ok type ∧
      ctx.names.typeName "String" = .ok valueType ∧ m.DecodesMaps type .integer valueType := by
  have checked : ((Context.new counts {}).toOption.map fun ctx => ctx.validate.toOption) =
      some (some ()) := rfl
  obtain ⟨ctx, new, valid⟩ := Option.map_eq_some_iff.mp checked
  have new := eq_ok_of_toOption new
  have valid := eq_ok_of_toOption valid
  obtain ⟨json, decodes⟩ := settled_counts new
  obtain ⟨m, planned, -, maps⟩ := json_maps_keep_least_name load_countsText new valid json
  obtain ⟨target, kind, type, valueType, found, primitive, -, typed, valueTyped, least⟩ :=
    maps ⟨"Counts", .map { shape := "Number" } { shape := "String" }, none⟩ (by simp [counts])
      { shape := "Number" } { shape := "String" } rfl decodes
  obtain rfl : target = ⟨"Number", .primitive .integer, none⟩ := Option.some.inj found.symm
  obtain rfl : PrimitiveKind.integer = kind := ShapeKind.primitive.inj primitive
  exact ⟨load_countsText, ctx, m, type, valueType, new, valid, json, planned, typed, valueTyped,
    least⟩

/-- Two members for the key 2. -/
def countsBody : String :=
  "\x7b\"2\":\"b\",\" 2\":\"a\"\x7d"

def countsMembers : List (String × Json.Value) :=
  [("2", .string "b"), (" 2", .string "a")]

/-- The entries that are scalars. -/
def scalarEntries : Codec.Value → List (Scalar × Scalar)
  | .map entries => entries.filterMap fun e =>
    match e.2 with
    | .scalar v => some (e.1, v)
    | _ => none
  | _ => []

theorem utf8_countsBody : Text.utf8 countsBody =
    [123, 34, 50, 34, 58, 34, 98, 34, 44, 34, 32, 50, 34, 58, 34, 97, 34, 125] := by
  obtain ⟨chars, spelt, bytes⟩ : ∃ chars, countsBody = String.ofList chars ∧
      chars.flatMap String.utf8EncodeChar =
        [123, 34, 50, 34, 58, 34, 98, 34, 44, 34, 32, 50, 34, 58, 34, 97, 34, 125] :=
    ⟨_, rfl, rfl⟩
  rw [spelt, Text.utf8, String.toList_ofList, bytes]

theorem members_countsBody : ∃ entries,
    (Json.Source.ofBytes (Text.utf8 countsBody)).tree = .object entries none ∧
      Json.Value.ofEntries (Json.Value.maxDepth - 1) entries = .ok countsMembers := by
  rw [utf8_countsBody]
  exact ⟨[(.ok "2", .string (.ok "b")), (.ok " 2", .string (.ok "a"))], rfl, rfl⟩

theorem ofBody_countsBody : Json.Value.ofBody (Text.utf8 countsBody) =
    .ok (.object [(" 2", .string "a"), ("2", .string "b")]) := by
  rw [utf8_countsBody]
  rfl

/-- The member that comes second in the document is kept, because its name is the lesser one. -/
theorem second_member_kept : Service.load countsText = .ok counts ∧
    ∃ ctx m entries object v, Context.new counts {} = .ok ctx ∧ ctx.validate = .ok () ∧
      ctx.protocol = .json ∧ ctx.plan = .ok m ∧ ctx.hasDecoder "Counts" ∧
      (Json.Source.ofBytes (Text.utf8 countsBody)).tree = .object entries none ∧
      Json.Value.ofEntries (Json.Value.maxDepth - 1) entries = .ok countsMembers ∧
      Module.FirstFor .integer "Counts" (.integer 2) countsMembers ("2", .string "b") ∧
      Json.Value.ofBody (Text.utf8 countsBody) = .ok object ∧
      (m.decodeJson [] "Counts" "Counts" object).run = some (.ok v) ∧
      scalarEntries v = [(.integer 2, .text "a")] := by
  have planned : ((planService counts {}).toOption.bind fun m =>
      (m.decodeJson [] "Counts" "Counts"
        (.object [(" 2", .string "a"), ("2", .string "b")])).run.map fun decoded =>
          decoded.toOption.map scalarEntries) = some (some [(.integer 2, .text "a")]) := by
    rfl
  obtain ⟨m, made, read⟩ := Option.bind_eq_some_iff.mp planned
  obtain ⟨result, decoded, shown⟩ := Option.map_eq_some_iff.mp read
  obtain ⟨v, read, kept⟩ := Option.map_eq_some_iff.mp shown
  obtain rfl : result = .ok v := eq_ok_of_toOption read
  obtain ⟨ctx, new, checked⟩ := bind_eq_ok.mp (eq_ok_of_toOption made)
  obtain ⟨valid, resolved⟩ := then_eq_ok.mp checked
  obtain ⟨json, decodes⟩ := settled_counts new
  obtain ⟨entries, tree, written⟩ := members_countsBody
  have first : Module.FirstFor .integer "Counts" (.integer 2) countsMembers ("2", .string "b") :=
    ⟨[], _, rfl, rfl, nofun⟩
  exact ⟨load_countsText, ctx, m, entries, _, v, new, valid, json, resolved, decodes, tree, written,
    first, ofBody_countsBody, decoded, kept⟩

end ServiceClient.Generator
