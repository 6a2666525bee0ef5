import ServiceClient.Proofs.Codec.Pieces
import ServiceClient.Proofs.Generator.DefinedNames

/-! Wire names of a checked service. Those of a structure's members are compared by the checks, and
elements are numbered, so that encoders keep the parts of a value apart. The names of the keys and
values of a map are not compared. -/

namespace ServiceClient.Generator
open ServiceClient.Codec ServiceClient.Schema ServiceClient.Sequence

namespace Context
variable {ctx : Context} {m : Module}

/-- Parameters are named by members in the body. -/
theorem paramWires_sublist (ctx : Context) (s : Structure) (plans : List MemberPlan) :
    ((plans.map fun p => (⟨p.field, p.required, ctx.writeTarget s p⟩ : FieldWrite)).filterMap
      (·.target.paramWire?)).Sublist (Emit.wires (plans.map readField)) := by
  induction plans with
  | nil => exact List.Sublist.slnil
  | cons p plans ih =>
    -- Parts of the address, headers and the raw payload are no parameters.
    rw [List.map_cons, List.filterMap_cons]
    cases location : p.member.location <;> cases raw : ctx.isRawPayload s p <;>
      simp_all [writeTarget, Target.paramWire?, Emit.wires, readField, FieldRead.isHeader,
        MemberPlan.isHeader]

namespace Checked

/-- An encoder keeps the parts of a value apart, unless it is that of a map whose keys and values
have one name. -/
theorem partsApart_iff (h : ctx.Checked) {shape : Shape} (mem : shape ∈ ctx.service.shapes)
    {body : EncoderBody} (made : ctx.encoderBody shape.kind = .ok body) :
    body.PartsApart ↔
      ∀ key value, shape.kind = .map key value → keyWireName key ≠ valueWireName value := by
  have made := encoderBody_eq_ok made
  cases kind : shape.kind with
  | primitive k =>
    simp only [kind] at made
    subst made
    simp [EncoderBody.partsApart_scalar]
  | list element =>
    simp only [kind] at made
    obtain ⟨type, -, rfl⟩ := made
    simp [EncoderBody.partsApart_list]
  | map key value =>
    simp only [kind] at made
    obtain ⟨keyType, valueType, -, -, rfl⟩ := made
    simp [EncoderBody.partsApart_map]
  | struct s =>
    simp only [kind] at made
    obtain ⟨plans, planned, rfl⟩ := made
    have apart := EncoderBody.partsApart_struct
      ((paramWires_sublist ctx s plans).nodup (h.wires_nodup mem kind planned))
    simp [apart]

end Checked
end Context

/-- In a checked service the members of a structure have different wire names, and all encoders keep
the parts of a value apart exactly if the keys and values of each encoded map have different
names. -/
theorem paths_unique_iff {text : String} {service : Service} {config : Config} {ctx : Context}
    (loaded : Service.load text = .ok service) (made : Context.new service config = .ok ctx)
    (valid : ctx.validate = .ok ()) :
    ∃ m, ctx.plan = .ok m ∧
      (∀ shape ∈ service.shapes, ∀ s, shape.kind = .struct s →
        ∃ wires, ctx.wireNames (bodyMembers s) = .ok wires ∧ wires.Nodup) ∧
      ((∀ plan ∈ m.shapes, ∀ e ∈ plan.encoder, e.body.PartsApart) ↔
        ∀ shape ∈ service.shapes, ctx.hasEncoder shape.name → ∀ key value,
          shape.kind = .map key value → keyWireName key ≠ valueWireName value) := by
  have h := Context.Checked.ofLoad loaded made valid
  obtain ⟨rfl, -⟩ := Context.new_eq_ok made
  obtain ⟨m, planned⟩ := h.exists_plan
  have shaped := (Context.plan_eq_ok planned).2.1
  refine ⟨m, planned, fun shape mem s kind => h.exists_wireNames mem kind, ?_, ?_⟩
  · intro apart shape mem encodes
    obtain ⟨type, typed⟩ := h.exists_ownType mem
    obtain ⟨plan, e, here, -, found, -, body⟩ :=
      Context.Checked.exists_plan_encoder planned mem typed encodes
    exact (h.partsApart_iff mem body).mp (apart plan (List.of_mem_zip here).2 e found)
  · intro different plan mem e found
    obtain ⟨shape, zipped, made⟩ := exists_zip_mem shaped mem
    have here := (List.of_mem_zip zipped).1
    obtain ⟨type, typed⟩ := h.exists_ownType here
    have encoded := (Context.shapePlan_eq_ok made).2.2
    split at encoded
    · rename_i encodes
      obtain ⟨e', made, found'⟩ := encoded
      obtain rfl : e' = e := Option.some.inj (found'.symm.trans found)
      exact (h.partsApart_iff here (Context.encoder_eq_ok typed made).2).mpr
        (different shape here encodes)
    · rw [encoded] at found
      cases found

theorem nodes_paths_unique : Service.load nodesText = .ok nodes ∧
    ∃ ctx, Context.new nodes {} = .ok ctx ∧ ctx.validate = .ok () ∧ ∃ m, ctx.plan = .ok m ∧
      ∀ plan ∈ m.shapes, ∀ e ∈ plan.encoder, e.body.PartsApart := by
  obtain ⟨ctx, made, valid⟩ := exists_context_nodes
  obtain ⟨m, planned, -, apart⟩ := paths_unique_iff load_nodesText made valid
  refine ⟨load_nodesText, ctx, made, valid, m, planned, apart.mpr ?_⟩
  intro shape mem _ key value kind
  have plain : ∀ shape ∈ nodes.shapes,
      (match shape.kind with
      | .map key value => keyWireName key != valueWireName value
      | _ => true) = true := by decide
  simpa [kind] using plain shape mem

/-- A map whose keys and values are both called `Item`. -/
def pairsText : String :=
  "\x7b\"metadata\":[\"pairs\",\"rest-xml\"],
    \"shapes\":\x7b\"Pairs\":\x7b\"type\":\"map\",
    \"key\":[\"String\",null,\"Item\"],\"value\":[\"String\",null,\"Item\"]\x7d,
    \"String\":[\"string\"]\x7d\x7d"

def pairs : Service where
  metadata := { endpointPrefix := "pairs", protocol := some "rest-xml" }
  operations := []
  shapes :=
    [ { name := "Pairs", kind := .map { shape := "String", locationName := some "Item" }
          { shape := "String", locationName := some "Item" } },
      { name := "String", kind := .primitive .string } ]

set_option maxRecDepth 4000 in
theorem load_pairsText : Service.load pairsText = .ok pairs :=
  Service.load_ofList (by decide +kernel)

def emptyRequest : Wire.Request where
  method := "POST"
  endpointPrefix := "pairs"
  region := "eu-west-1"
  path := "/"

/-- The map passes the checks, and its encoder loses the key of an entry behind the value. -/
theorem value_replaces_key : Service.load pairsText = .ok pairs ∧
    ∃ ctx m, Context.new pairs {} = .ok ctx ∧ ctx.validate = .ok () ∧ ctx.plan = .ok m ∧
      (m.writes "Pairs" "" (.map [(.text "k", .text "v")])) =
        some [.param "1.Item" "k", .param "1.Item" "v"] ∧
      (m.encode "Pairs" "" (.map [(.text "k", .text "v")]) emptyRequest).map (·.params) =
        some [("1.Item", "v")] := by
  have planned : ((planService pairs {}).toOption.bind fun m =>
      (m.writes "Pairs" "" (.map [(.text "k", .text "v")]))) =
      some [.param "1.Item" "k", .param "1.Item" "v"] := rfl
  obtain ⟨m, made, written⟩ := Option.bind_eq_some_iff.mp planned
  obtain ⟨ctx, new, checked⟩ := bind_eq_ok.mp (eq_ok_of_toOption made)
  obtain ⟨valid, resolved⟩ := then_eq_ok.mp checked
  refine ⟨load_pairsText, ctx, m, new, valid, resolved, written, ?_⟩
  rw [Module.encode, written]
  rfl

end ServiceClient.Generator
