import ServiceClient.Proofs.Codec.Pieces
import ServiceClient.Proofs.Data.SortedMap
import ServiceClient.Proofs.Generator.AliasExpansion
import ServiceClient.Proofs.Generator.DefinedNames
import ServiceClient.Proofs.Generator.Embedding

/-! Values of generated types. In a checked service every type has a value, since structures embed
each other only so deep, and the encoder of a type takes all of its values. Which parameters it
writes is told by the schema: each holds a scalar that the encoder reaches by handing parts of the
value on. -/

namespace ServiceClient.Wire.Scalar
open ServiceClient.Schema

/-- Whether the scalar is a value of a primitive shape of that kind. -/
def isOf : PrimitiveKind → Scalar → Bool
  | .string, text _ | .timestamp, text _ | .integer, integer _ | .long, long _ | .float, float _
  | .double, double _ | .blob, blob _ | .boolean, boolean _ => true
  | _, _ => false

/-- Every kind has scalars of different texts. -/
theorem exists_isOf_ne (kind : PrimitiveKind) (avoided : String) :
    ∃ v : Scalar, isOf kind v ∧ v.toText ≠ avoided := by
  have one_of : ∀ a b : Scalar, isOf kind a → isOf kind b → a.toText ≠ b.toText →
      ∃ v : Scalar, isOf kind v ∧ v.toText ≠ avoided := by
    intro a b ofA ofB apart
    by_cases same : a.toText = avoided
    · exact ⟨b, ofB, same ▸ apart.symm⟩
    · exact ⟨a, ofA, same⟩
  cases kind with
  | string | timestamp => exact one_of (text "") (text "a") rfl rfl (by decide)
  | integer => exact one_of (integer 0) (integer 1) rfl rfl (by decide)
  | long => exact one_of (long 0) (long 1) rfl rfl (by decide)
  | float => exact one_of (float ⟨false, 0⟩) (float ⟨true, 0⟩) rfl rfl (by decide)
  | double => exact one_of (double ⟨false, 0⟩) (double ⟨true, 0⟩) rfl rfl (by decide)
  | blob => exact one_of (blob []) (blob [0]) rfl rfl (by decide)
  | boolean => exact one_of (boolean true) (boolean false) rfl rfl (by decide)

end ServiceClient.Wire.Scalar

namespace ServiceClient.Generator.Context
open ServiceClient.Codec ServiceClient.Schema ServiceClient.Sequence ServiceClient.Wire

/-- The values of the type of a shape, whose primitives have the `scalars` of each kind. -/
inductive OfShape (ctx : Context) (scalars : PrimitiveKind → Scalar → Prop) :
    String → Codec.Value → Prop
  | scalar {name : String} {shape : Shape} {kind : PrimitiveKind} {v : Scalar}
      (found : ctx.service.shape? name = some shape) (is : shape.kind = .primitive kind)
      (own : scalars kind v) : OfShape ctx scalars name (.scalar v)
  | list {name : String} {shape : Shape} {element : Member} {items : List Codec.Value}
      (found : ctx.service.shape? name = some shape) (is : shape.kind = .list element)
      (each : ∀ v ∈ items, OfShape ctx scalars element.shape v) :
      OfShape ctx scalars name (.list items)
  | map {name : String} {shape : Shape} {key value : Member} {entries : List (Scalar × Codec.Value)}
      (found : ctx.service.shape? name = some shape) (is : shape.kind = .map key value)
      (ascending : SortedMap.Ascending Scalar.lt entries)
      (keys : ∀ e ∈ entries, OfShape ctx scalars key.shape (.scalar e.1))
      (values : ∀ e ∈ entries, OfShape ctx scalars value.shape e.2) :
      OfShape ctx scalars name (.map entries)
  | struct {name : String} {shape : Shape} {s : Structure}
      {fields : List (String × Option Codec.Value)}
      (found : ctx.service.shape? name = some shape) (is : shape.kind = .struct s)
      (named : List.Forall₂ (fun m f => ctx.names.snakeName m.1 = .ok f.1) s.members fields)
      (filled : ∀ p ∈ s.members.zip fields, s.isRequired p.1.1 → p.2.2.isSome)
      (each : ∀ p ∈ s.members.zip fields, ∀ v, p.2.2 = some v →
        OfShape ctx scalars p.1.2.shape v) :
      OfShape ctx scalars name (.struct fields)

/-- The encoder of `outer` hands a part of a value called `path` to the encoder of `inner`, as a
value called `path'`. -/
inductive Hands (ctx : Context) : (outer path inner path' : String) → Prop
  | element {outer path : String} {shape : Shape} {element : Member}
      (found : ctx.service.shape? outer = some shape) (is : shape.kind = .list element) (i : Nat) :
      Hands ctx outer path element.shape (joinPath path (indexText i))
  | key {outer path : String} {shape : Shape} {key value : Member}
      (found : ctx.service.shape? outer = some shape) (is : shape.kind = .map key value) (i : Nat) :
      Hands ctx outer path key.shape (joinPath (joinPath path (indexText i)) (keyWireName key))
  | value {outer path : String} {shape : Shape} {key value : Member}
      (found : ctx.service.shape? outer = some shape) (is : shape.kind = .map key value) (i : Nat) :
      Hands ctx outer path value.shape
        (joinPath (joinPath path (indexText i)) (valueWireName value))
  | member {outer path wire : String} {shape : Shape} {s : Structure} {m : String × Member}
      (found : ctx.service.shape? outer = some shape) (is : shape.kind = .struct s)
      (mem : m ∈ s.members) (nested : ctx.isNested s m) (wired : ctx.wireName m.1 m.2 = .ok wire) :
      Hands ctx outer path m.2.shape (joinPath path wire)

/-- The encoder of a shape may do the write for a value called `path`. -/
inductive Sends (ctx : Context) (scalars : PrimitiveKind → Scalar → Prop) :
    (shape path : String) → Write → Prop
  | scalar {name path : String} {shape : Shape} {kind : PrimitiveKind} {v : Scalar}
      (found : ctx.service.shape? name = some shape) (is : shape.kind = .primitive kind)
      (own : scalars kind v) : Sends ctx scalars name path (.param path v.toText)
  | member {name path : String} {shape : Shape} {s : Structure} {m : String × Member}
      {p : MemberPlan} {kind : PrimitiveKind} {v : Scalar} {w : Write}
      (found : ctx.service.shape? name = some shape) (is : shape.kind = .struct s)
      (mem : m ∈ s.members) (resolved : ctx.memberPlan s m.1 m.2 = .ok p) (own : scalars kind v)
      (made : (ctx.writeTarget s p).write? v = some w) : Sends ctx scalars name path w
  | part {outer path inner path' : String} {w : Write} (hands : ctx.Hands outer path inner path')
      (below : Sends ctx scalars inner path' w) : Sends ctx scalars outer path w

variable {ctx : Context} {scalars : PrimitiveKind → Scalar → Prop} {m : Module}

theorem OfShape.exists_scalar {name : String} {v : Codec.Value} (typed : ctx.OfShape scalars name v)
    {shape : Shape} (found : ctx.service.shape? name = some shape) {kind : PrimitiveKind}
    (is : shape.kind = .primitive kind) : ∃ s, v = .scalar s ∧ scalars kind s := by
  cases typed with
  | scalar found' is' own =>
    cases found.symm.trans found'
    cases is.symm.trans is'
    exact ⟨_, rfl, own⟩
  | list found' is' | map found' is' | struct found' is' =>
    cases found.symm.trans found'
    cases is.symm.trans is'

theorem OfShape.mono {others : PrimitiveKind → Scalar → Prop}
    (more : ∀ kind v, scalars kind v → others kind v) {name : String} {v : Codec.Value}
    (typed : ctx.OfShape scalars name v) : ctx.OfShape others name v := by
  induction typed with
  | scalar found is own => exact .scalar found is (more _ _ own)
  | list found is each ih => exact .list found is ih
  | map found is ascending keys values ihKeys ihValues =>
    exact .map found is ascending ihKeys ihValues
  | struct found is named filled each ih => exact .struct found is named filled ih

namespace Checked

/-- A member that does not travel in the parameters below its structure is primitive. -/
theorem exists_primitive (h : ctx.Checked) {shape : Shape} {s : Structure}
    (mem : shape ∈ ctx.service.shapes) (kind : shape.kind = .struct s) {member : String × Member}
    (here : member ∈ s.members) (apart : ctx.isNested s member = false) :
    ∃ target k, ctx.service.shape? member.2.shape = some target ∧ target.kind = .primitive k := by
  obtain ⟨target, found⟩ := h.exists_member mem kind here
  suffices primitive : target.primitive?.isSome by
    cases own : target.kind with
    | primitive k => exact ⟨target, k, found, own⟩
    | struct | list | map => simp [Shape.primitive?, own] at primitive
  cases location : member.2.location == .payload with
  | true =>
    have raw : ctx.isRawMember s member.1 member.2 := by simpa [isNested, location] using apart
    simp only [isRawMember, found, Option.any_some, Bool.and_eq_true, Bool.or_eq_true,
      beq_iff_eq] at raw
    rcases raw.2 with own | own <;> simp [own]
  | false =>
    have checked := (Context.validate_eq_ok.mp h.valid).1 shape mem
    simp only [checkShape, kind, checkLocations, forM_eq_ok] at checked
    have own := checked member here
    simp only [location, shape_eq_ok.mpr found, bind, Except.bind, Bool.false_eq_true,
      if_false] at own
    split at own
    · assumption
    · cases own

section Existence
variable (h : ctx.Checked)
include h

/-- A structure with a value for each of its members. -/
theorem exists_fields {name : String} {shape : Shape} {s : Structure}
    (found : ctx.service.shape? name = some shape) (kind : shape.kind = .struct s)
    {R : String × Member → Codec.Value → Prop}
    (each : ∀ m ∈ s.members, ∃ v, ctx.OfShape scalars m.2.shape v ∧ R m v) :
    ∃ fields, ctx.OfShape scalars name (.struct fields) ∧
      ∀ m ∈ s.members, ∃ field v, (m, field, some v) ∈ s.members.zip fields ∧ R m v := by
  obtain ⟨mem, -⟩ := Service.shape?_eq_some found
  have one : ∀ m ∈ s.members, ∃ f : String × Option Codec.Value,
      ctx.names.snakeName m.1 = .ok f.1 ∧
        ∃ v, f.2 = some v ∧ ctx.OfShape scalars m.2.shape v ∧ R m v := by
    intro m here
    obtain ⟨field, named⟩ := h.exists_fieldName mem kind here
    obtain ⟨v, typed, related⟩ := each m here
    exact ⟨(field, some v), named, v, rfl, typed, related⟩
  obtain ⟨fields, made⟩ := exists_forall₂.mpr one
  obtain ⟨-, pairs⟩ := List.forall₂_iff_zip.mp made
  refine ⟨fields, .struct found kind (made.imp fun _ _ => And.left) ?_ ?_, fun m here => ?_⟩
  · intro p here _
    obtain ⟨-, v, held, -⟩ := pairs here
    rw [held]
    rfl
  · intro p here v held
    obtain ⟨-, v', held', typed, -⟩ := pairs here
    obtain rfl := Option.some.inj (held.symm.trans held')
    exact typed
  · obtain ⟨⟨field, _⟩, here, -, v, rfl, -, related⟩ := exists_mem_zip made here
    exact ⟨field, v, here, related⟩

theorem exists_value_of_members (any : ∀ kind, ∃ v, scalars kind v) {name : String} {shape : Shape}
    (found : ctx.service.shape? name = some shape)
    (members : ∀ s, shape.kind = .struct s → ∀ m ∈ s.members,
      ∃ v, ctx.OfShape scalars m.2.shape v) : ∃ v, ctx.OfShape scalars name v := by
  cases kind : shape.kind with
  | primitive k =>
    obtain ⟨v, own⟩ := any k
    exact ⟨_, .scalar found kind own⟩
  | list element => exact ⟨.list [], .list found kind (by simp)⟩
  | map key value => exact ⟨.map [], .map found kind List.Pairwise.nil (by simp) (by simp)⟩
  | struct s =>
    obtain ⟨fields, typed, -⟩ := h.exists_fields (R := fun _ _ => True) found kind
      fun m mem => (members s kind m mem).imp fun _ typed => ⟨typed, trivial⟩
    exact ⟨_, typed⟩

/-- Every type has a value. -/
theorem exists_value (any : ∀ kind, ∃ v, scalars kind v) {name : String} {shape : Shape}
    (found : ctx.service.shape? name = some shape) : ∃ v, ctx.OfShape scalars name v := by
  have ends := wellFounded_embeds (Context.validate_eq_ok.mp h.valid).2.1
  induction name using ends.induction generalizing shape with
  | _ name ih =>
    refine h.exists_value_of_members any found fun s kind m here => ?_
    obtain ⟨mem, -⟩ := Service.shape?_eq_some found
    obtain ⟨target, found'⟩ := h.exists_member mem kind here
    cases own : target.structure? with
    | none =>
      refine h.exists_value_of_members any found' fun s' kind' => ?_
      rw [structure?_eq_some.mpr kind'] at own
      cases own
    | some s' =>
      refine ih m.2.shape ⟨by simp [found', own], s, ?_, m, here, rfl⟩ found'
      rw [found, Option.bind_some, structure?_eq_some.mpr kind]

end Existence

section Lookup
variable (h : ctx.Checked) (planned : ctx.plan = .ok m) {shape : Shape}
  (mem : shape ∈ ctx.service.shapes) {type : String}
  (typed : ctx.names.typeName shape.name = .ok type) (encodes : ctx.hasEncoder shape.name)
include h planned mem typed encodes

/-- No other plan has an encoder of the type. -/
theorem plan_of_encoder {plan : ShapePlan} (here : plan ∈ m.shapes) {e : Encoder}
    (emitted : plan.encoder = some e) (named : e.type = type) :
    ctx.shapePlan shape = .ok plan := by
  obtain ⟨other, zipped, made⟩ := exists_zip_mem (plan_eq_ok planned).2.1 here
  obtain ⟨type', typed'⟩ := h.exists_ownType (List.of_mem_zip zipped).1
  have encoded := (shapePlan_eq_ok made).2.2
  split at encoded
  · rename_i encodes'
    obtain ⟨e', own, found⟩ := encoded
    obtain rfl : e = e' := Option.some.inj (emitted.symm.trans found)
    obtain rfl : type = type' := named.symm.trans (encoder_eq_ok typed' own).1
    have declared : (Emit.encoderName type, Part.encoder other) ∈
        declarations (parts ctx.service.shapes m) :=
      mem_declarations zipped (by simp [shapeParts_declarations typed' made, encodes'])
    obtain ⟨⟩ := (h.declares_encoder planned mem typed encodes).part_eq declared
    exact made
  · rw [encoded] at emitted
    cases emitted

/-- The encoder of a shape is the one that is found under its type. -/
theorem encoderBody?_eq :
    ∃ body, ctx.encoderBody shape.kind = .ok body ∧ m.encoderBody? type = some body := by
  obtain ⟨plan, e, here, made, emitted, own, body⟩ :=
    exists_plan_encoder planned mem typed encodes
  have only : m.encoder? type = some e := by
    refine findSome?_eq_some_of_only (List.of_mem_zip here).2 (by simp [emitted, own]) ?_
    intro plan' here' e' found
    obtain ⟨emitted', named⟩ := Option.filter_eq_some_iff.mp found
    have made' := h.plan_of_encoder planned mem typed encodes here' emitted' (eq_of_beq named)
    exact Except.ok.inj (made'.symm.trans made)
  exact ⟨e.body, body, by rw [Module.encoderBody?, only, Option.map_some]⟩

end Lookup

/-- Encoders hand parts on to encoders that are generated. -/
theorem hasEncoder_of_hands (h : ctx.Checked) {outer path inner path' : String}
    (hands : ctx.Hands outer path inner path') (encodes : ctx.hasEncoder outer) :
    ctx.hasEncoder inner := by
  have listed : ∀ {shape : Shape}, ctx.service.shape? outer = some shape →
      ∃ dependencies, ctx.encoderDependencies shape = .ok dependencies ∧
        ∀ {part referenced : String}, (part, referenced) ∈ dependencies →
          ctx.hasEncoder referenced := by
    intro shape found
    obtain ⟨mem, rfl⟩ := Service.shape?_eq_some found
    exact h.exists_encoderDependencies mem encodes
  have part_of : ∀ (part : String) {shape : Shape} {member : Member},
      ctx.service.shape? outer = some shape → shape.structure? = none →
      (part, member) ∈ shape.parts → ctx.hasEncoder member.shape := by
    intro part shape member found plain here
    obtain ⟨dependencies, made, all⟩ := listed found
    have whole : dependencies = shape.parts.map fun p => (p.1, p.2.shape) := by
      cases kind : shape.kind <;> simp_all [encoderDependencies, Shape.structure?]
    have own : (part, member.shape) ∈ dependencies := whole ▸ List.mem_map_of_mem here
    exact all own
  cases hands with
  | element found is =>
    exact part_of "member" found (by simp [Shape.structure?, is]) (by simp [Shape.parts, is])
  | key found is =>
    exact part_of "key" found (by simp [Shape.structure?, is]) (by simp [Shape.parts, is])
  | value found is =>
    exact part_of "value" found (by simp [Shape.structure?, is]) (by simp [Shape.parts, is])
  | @member wire shape s member found is mem nested wired =>
    obtain ⟨dependencies, made, all⟩ := listed found
    simp only [encoderDependencies, is, bind_eq_ok] at made
    obtain ⟨plans, resolved, ⟨⟩⟩ := made
    obtain ⟨p, here, own⟩ := exists_mem_zip (mapM_eq_ok.mp resolved) mem
    rw [← isNested_memberPlan own] at nested
    obtain ⟨-, same, -⟩ := memberPlan_eq_ok own
    have called : (p.name, member.2.shape) ∈ (plans.filter fun p =>
        p.member.location == .payload && !ctx.isRawPayload s p).map
          fun p => (p.name, p.member.shape) :=
      List.mem_map.mpr ⟨p, List.mem_filter.mpr ⟨(List.of_mem_zip here).2, nested⟩, by rw [same]⟩
    exact all called

theorem exists_encoderBody (h : ctx.Checked) (planned : ctx.plan = .ok m) {name : String}
    {shape : Shape} (found : ctx.service.shape? name = some shape) {type : String}
    (typed : ctx.names.typeName name = .ok type) (encodes : ctx.hasEncoder name) :
    ∃ body, ctx.encoderBody shape.kind = .ok body ∧ m.encoderBody? type = some body := by
  obtain ⟨mem, rfl⟩ := Service.shape?_eq_some found
  exact h.encoderBody?_eq planned mem typed encodes

/-- A nested member is handed on under its wire name. -/
theorem memberPiece_of_nested {s : Structure} {member : String × Member} {p : MemberPlan}
    (resolved : ctx.memberPlan s member.1 member.2 = .ok p) (nested : ctx.isNested s member)
    (path : String) (v : Codec.Value) :
    memberPiece path ⟨p.field, p.required, ctx.writeTarget s p⟩ (some v) =
      some [.below p.type (joinPath path p.wire) v] := by
  have nesting := isNested_memberPlan resolved
  rw [nested, Bool.and_eq_true, beq_iff_eq, Bool.not_eq_true'] at nesting
  simp [memberPiece, writeTarget, nesting]

/-- The parts that a member gives, where its own encoder takes its values. -/
theorem exists_memberPiece (h : ctx.Checked) {name : String} {shape : Shape}
    (found : ctx.service.shape? name = some shape) {s : Structure} (is : shape.kind = .struct s)
    (encodes : ctx.hasEncoder name) {member : String × Member} (here : member ∈ s.members)
    {p : MemberPlan} (resolved : ctx.memberPlan s member.1 member.2 = .ok p) (path : String)
    {value : Option Codec.Value} (filled : s.isRequired member.1 → value.isSome)
    (typed : ∀ v, value = some v → ctx.OfShape scalars member.2.shape v)
    (below : ∀ v, value = some v → ∀ {type path : String},
      ctx.names.typeName member.2.shape = .ok type → ctx.hasEncoder member.2.shape →
        ∃ ws, m.writes type path v = some ws ∧
          ∀ w ∈ ws, ctx.Sends scalars member.2.shape path w) :
    ∃ pieces, memberPiece path ⟨p.field, p.required, ctx.writeTarget s p⟩ value = some pieces ∧
      ∀ q ∈ pieces, ∃ ws, m.pieceWrites q = some ws ∧ ∀ w ∈ ws, ctx.Sends scalars name path w := by
  obtain ⟨-, wired⟩ := names_of_memberPlan resolved
  obtain ⟨-, same, target, memberTyped, required⟩ := memberPlan_eq_ok resolved
  have nesting := isNested_memberPlan resolved
  cases value with
  | none =>
    have optional : p.required = false := by simpa [required] using filled
    exact ⟨[], by simp [memberPiece, optional], by simp⟩
  | some v =>
    cases nested : ctx.isNested s member with
    | true =>
      have hands : ctx.Hands name path member.2.shape (joinPath path p.wire) :=
        .member found is here nested wired
      obtain ⟨ws, written, sent⟩ : ∃ ws, m.writes p.type (joinPath path p.wire) v = some ws ∧
          ∀ w ∈ ws, ctx.Sends scalars member.2.shape (joinPath path p.wire) w :=
        below v rfl memberTyped (h.hasEncoder_of_hands hands encodes)
      refine ⟨_, memberPiece_of_nested resolved nested path v, ?_⟩
      rw [List.forall_mem_singleton]
      exact ⟨ws, written, fun w mem => .part hands (sent w mem)⟩
    | false =>
      obtain ⟨mem, -⟩ := Service.shape?_eq_some found
      obtain ⟨target, kind, found', primitive⟩ := h.exists_primitive mem is here nested
      obtain ⟨x, rfl, own⟩ := (typed v rfl).exists_scalar found' primitive
      obtain ⟨w, made⟩ : ∃ w, (ctx.writeTarget s p).write? x = some w := by
        rw [nested] at nesting
        cases location : p.member.location <;>
          simp_all [writeTarget, Target.write?]
      refine ⟨[.own w], ?_, ?_⟩
      · cases target : ctx.writeTarget s p with
        | nested type wire => simp [target, Target.write?] at made
        | header | pathParam | queryParam | rawPayload =>
          rw [target] at made
          simp [memberPiece, made]
      · rw [List.forall_mem_singleton]
        exact ⟨[w], rfl, List.forall_mem_singleton.mpr (.member found is here resolved own made)⟩

/-- The parts that all members give, where each gives its own. -/
theorem exists_memberPieces_of_each {s : Structure} {plans : List MemberPlan}
    (resolved : ctx.memberPlans s = .ok plans) {fields : List (String × Option Codec.Value)}
    (fieldNames : List.Forall₂ (fun m f => ctx.names.snakeName m.1 = .ok f.1) s.members fields)
    {Good : Piece → Prop} (path : String)
    (each : ∀ {member : String × Member} {entry : String × Option Codec.Value} {p : MemberPlan},
      (member, entry) ∈ s.members.zip fields → ctx.memberPlan s member.1 member.2 = .ok p →
        ∃ own, memberPiece path ⟨p.field, p.required, ctx.writeTarget s p⟩ entry.2 = some own ∧
          ∀ q ∈ own, Good q) :
    ∃ pieces, memberPieces path (plans.map fun p => ⟨p.field, p.required, ctx.writeTarget s p⟩)
        fields = some pieces ∧ ∀ q ∈ pieces, Good q := by
  have paired : List.Forall₂ (fun m f => ctx.names.snakeName m.1 = .ok f.1 ∧
      (m, f) ∈ s.members.zip fields) s.members fields :=
    List.forall₂_iff_zip.mpr ⟨fieldNames.length_eq, fun here =>
      ⟨(List.forall₂_iff_zip.mp fieldNames).2 here, here⟩⟩
  have members : List.Forall₂ (fun (f : FieldWrite) entry => f.field = entry.1 ∧
      ∃ own, memberPiece path f entry.2 = some own ∧ ∀ q ∈ own, Good q)
      (plans.map fun p => ⟨p.field, p.required, ctx.writeTarget s p⟩) fields := by
    rw [List.forall₂_map_left_iff]
    refine forall₂_of_common (fun member p entry own here => ?_) (mapM_eq_ok.mp resolved) paired
    obtain ⟨fieldName, zipped⟩ := here
    exact ⟨Except.ok.inj ((names_of_memberPlan own).1.symm.trans fieldName), each zipped own⟩
  obtain ⟨pieces, whole⟩ := exists_memberPieces (members.imp fun _ _ here =>
    ⟨here.1, here.2.imp fun _ => And.left⟩)
  refine ⟨pieces, whole, fun q inside => ?_⟩
  obtain ⟨pair, zipped, own, made, inside⟩ := exists_member_of_piece whole inside
  obtain ⟨-, own', made', good⟩ := (List.forall₂_iff_zip.mp members).2 zipped
  obtain rfl := Option.some.inj (made.symm.trans made')
  exact good q inside

/-- An encoder takes every value of its type, and writes what the schema tells. -/
theorem exists_writes (h : ctx.Checked) (planned : ctx.plan = .ok m) {name : String}
    {v : Codec.Value} (typed : ctx.OfShape scalars name v) {type path : String}
    (named : ctx.names.typeName name = .ok type) (encodes : ctx.hasEncoder name) :
    ∃ ws, m.writes type path v = some ws ∧ ∀ w ∈ ws, ctx.Sends scalars name path w := by
  induction typed generalizing type path with
  | scalar found is own =>
    obtain ⟨body, made, looked⟩ := h.exists_encoderBody planned found named encodes
    rw [is] at made
    obtain rfl := encoderBody_eq_ok made
    refine Module.exists_writes_of_pieces looked rfl ?_
    rw [List.forall_mem_singleton]
    exact ⟨_, rfl, List.forall_mem_singleton.mpr (.scalar found is own)⟩
  | list found is each ih =>
    obtain ⟨body, made, looked⟩ := h.exists_encoderBody planned found named encodes
    rw [is] at made
    obtain ⟨element, elementTyped, rfl⟩ := encoderBody_eq_ok made
    refine Module.exists_writes_of_pieces looked rfl fun p here => ?_
    obtain ⟨i, v, inside, rfl⟩ := mem_itemPieces here
    have hands : ctx.Hands _ path _ _ := .element found is i
    obtain ⟨ws, written, sent⟩ := ih v inside elementTyped (h.hasEncoder_of_hands hands encodes)
    exact ⟨ws, written, fun w mem => .part hands (sent w mem)⟩
  | map found is ascending keys values ihKeys ihValues =>
    obtain ⟨body, made, looked⟩ := h.exists_encoderBody planned found named encodes
    rw [is] at made
    obtain ⟨key, value, keyTyped, valueTyped, rfl⟩ := encoderBody_eq_ok made
    refine Module.exists_writes_of_pieces looked rfl fun p here => ?_
    obtain ⟨i, e, inside, rfl | rfl⟩ := mem_entryPieces here
    · have hands : ctx.Hands _ path _ _ := .key found is i
      obtain ⟨ws, written, sent⟩ := ihKeys e inside keyTyped (h.hasEncoder_of_hands hands encodes)
      exact ⟨ws, written, fun w mem => .part hands (sent w mem)⟩
    · have hands : ctx.Hands _ path _ _ := .value found is i
      obtain ⟨ws, written, sent⟩ :=
        ihValues e inside valueTyped (h.hasEncoder_of_hands hands encodes)
      exact ⟨ws, written, fun w mem => .part hands (sent w mem)⟩
  | @struct name shape s fields found is fieldNames filled each ih =>
    obtain ⟨body, made, looked⟩ := h.exists_encoderBody planned found named encodes
    rw [is] at made
    obtain ⟨plans, resolved, rfl⟩ := encoderBody_eq_ok made
    obtain ⟨pieces, whole, sent⟩ := exists_memberPieces_of_each resolved fieldNames path
      fun zipped own => h.exists_memberPiece found is encodes (List.of_mem_zip zipped).1 own path
        (filled _ zipped) (each _ zipped) (ih _ zipped)
    exact Module.exists_writes_of_pieces (v := .struct fields) looked whole sent

end Checked
end ServiceClient.Generator.Context
