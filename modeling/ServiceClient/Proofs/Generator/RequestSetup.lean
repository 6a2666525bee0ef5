import ServiceClient.Client.Call
import ServiceClient.Proofs.Generator.TypedValues
import ServiceClient.Proofs.Wire.Request

/-! Parameters that requests start with. A request of a JSON service names its action and version
before its input is encoded, and what the input puts under the same name replaces them. The checks
compare the wire names of members with each other and not with these, so that a member may take the
place of the action: one in the query string, wherever its structure stands, and one at the top. -/

namespace ServiceClient.Generator
open ServiceClient.Client ServiceClient.Codec ServiceClient.Schema ServiceClient.Sequence
open ServiceClient.Markup (toList_joinPath dot_not_mem_index)
open ServiceClient.Wire Relation

/-- A name that is neither joined from others nor a number. -/
def IsPlain (param : String) : Prop :=
  '.' ∉ param.toList ∧ Number.natural? param.toList = none

section Paths
variable {path param : String}

/-- A plain name is joined from others only where the first of them is empty. -/
theorem IsPlain.of_joinPath {segment : String} (plain : IsPlain param)
    (same : joinPath path segment = param) : path = "" ∧ segment = param := by
  by_cases top : path = ""
  · exact ⟨top, by rw [← same, top, joinPath_empty]⟩
  · refine absurd ?_ plain.1
    rw [← same, toList_joinPath top]
    simp

theorem IsPlain.index_ne (plain : IsPlain param) (i : Nat) :
    joinPath path (indexText i) ≠ param := by
  intro same
  obtain ⟨-, rfl⟩ := plain.of_joinPath same
  exact absurd (natural?_indexText i) (by simp [plain.2])

theorem isPlain_empty : IsPlain "" := by
  constructor <;> decide

end Paths

namespace Context
variable (ctx : Context)

/-- The encoder of `outer` hands parts of its values to that of `inner`. -/
def Calls (outer inner : String) : Prop :=
  ∃ path path', ctx.Hands outer path inner path'

/-- A member of the structure is in the query string, under that name. -/
def HasQuery (owner param : String) : Prop :=
  ∃ shape s m, ctx.service.shape? owner = some shape ∧ shape.kind = .struct s ∧ m ∈ s.members ∧
    m.2.location = .queryString ∧ ctx.wireName m.1 m.2 = .ok param

/-- The names of members lead from a value called `path` through structures to a scalar that is sent
as the parameter. -/
inductive Leads (param : String) : (path shape : String) → Prop
  | scalar {name : String} {shape : Shape} {kind : PrimitiveKind}
      (found : ctx.service.shape? name = some shape) (is : shape.kind = .primitive kind) :
      Leads param param name
  | member {name path wire : String} {shape : Shape} {s : Structure} {m : String × Member}
      (found : ctx.service.shape? name = some shape) (is : shape.kind = .struct s)
      (mem : m ∈ s.members) (nested : ctx.isNested s m) (wired : ctx.wireName m.1 m.2 = .ok wire)
      (below : Leads param (joinPath path wire) m.2.shape) : Leads param path name

/-- A part of a value called `path` may be sent as the parameter. -/
def MaySend (param path shape : String) : Prop :=
  (∃ owner, ReflTransGen ctx.Calls shape owner ∧ ctx.HasQuery owner param) ∨
    ctx.Leads param path shape

variable {ctx} {scalars : PrimitiveKind → Scalar → Prop} {param path name : String}

theorem Leads.ends (leads : ctx.Leads param path name) (plain : IsPlain param) :
    path = "" ∨ path = param := by
  induction leads with
  | scalar => exact .inr rfl
  | member _ _ _ _ _ _ ih =>
    rcases ih with empty | same
    · exact .inl (isPlain_empty.of_joinPath empty).1
    · exact .inl (plain.of_joinPath same).1

/-- Nothing is sent by a plain name below a number. -/
theorem not_leads_below_index (plain : IsPlain param) (i : Nat) :
    ¬ctx.Leads param (joinPath path (indexText i)) name := by
  intro leads
  rcases leads.ends plain with empty | same
  · exact isPlain_empty.index_ne i empty
  · exact plain.index_ne i same

theorem not_leads_below_entry (plain : IsPlain param) (i : Nat) (segment : String) :
    ¬ctx.Leads param (joinPath (joinPath path (indexText i)) segment) name := by
  intro leads
  rcases leads.ends plain with empty | same
  · exact isPlain_empty.index_ne i (isPlain_empty.of_joinPath empty).1
  · exact isPlain_empty.index_ne i (plain.of_joinPath same).1

theorem MaySend.of_hands (plain : IsPlain param) {outer inner path' : String}
    (hands : ctx.Hands outer path inner path') (below : ctx.MaySend param path' inner) :
    ctx.MaySend param path outer := by
  rcases below with ⟨owner, calls, query⟩ | leads
  · exact .inl ⟨owner, .head ⟨path, path', hands⟩ calls, query⟩
  · cases hands with
    | element _ _ i => exact absurd leads (not_leads_below_index plain i)
    | key _ _ i | value _ _ i => exact absurd leads (not_leads_below_entry plain i _)
    | member found is mem nested wired => exact .inr (.member found is mem nested wired leads)

/-- What an encoder writes under a plain name is told by the members that it reaches. -/
theorem Sends.maySend {w : Write} (sends : ctx.Sends scalars name path w) {text : String}
    (same : w = .param param text) :
    (∃ kind v, scalars kind v ∧ v.toText = text) ∧
      (IsPlain param → ctx.MaySend param path name) := by
  induction sends with
  | scalar found is own =>
    cases same
    exact ⟨⟨_, _, own, rfl⟩, fun _ => .inr (.scalar found is)⟩
  | @member name path shape s m p kind v w found is mem resolved own made =>
    subst same
    obtain ⟨-, wired⟩ := names_of_memberPlan resolved
    obtain ⟨-, same, -⟩ := memberPlan_eq_ok resolved
    cases location : p.member.location with
    | queryString =>
      rw [writeTarget, location, Target.write?] at made
      cases made
      exact ⟨⟨kind, v, own, rfl⟩, fun _ =>
        .inl ⟨name, .refl, shape, s, m, found, is, mem, same ▸ location, wired⟩⟩
    | header | uri =>
      rw [writeTarget, location, Target.write?] at made
      cases made
    | payload =>
      cases raw : ctx.isRawPayload s p <;> simp [writeTarget, location, raw, Target.write?] at made
  | part hands _ ih =>
    obtain ⟨text, below⟩ := ih same
    exact ⟨text, fun plain => (below plain).of_hands plain hands⟩

namespace Checked
variable {m : Module} (h : ctx.Checked) (planned : ctx.plan = .ok m)
include h planned

/-- Whatever a member gives to be written, the encoder of its structure writes. -/
theorem exists_writes_of_member {shape : Shape} (found : ctx.service.shape? name = some shape)
    {s : Structure} (is : shape.kind = .struct s) (encodes : ctx.hasEncoder name) {type : String}
    (typed : ctx.names.typeName name = .ok type) {fields : List (String × Option Codec.Value)}
    {member : String × Member} {field : String} {v : Codec.Value}
    (zipped : (member, field, some v) ∈ s.members.zip fields) {ws : List Write}
    (written : m.writes type path (.struct fields) = some ws) :
    ∃ p pieces, ctx.memberPlan s member.1 member.2 = .ok p ∧
      memberPiece path ⟨p.field, p.required, ctx.writeTarget s p⟩ (some v) = some pieces ∧
        ∀ q ∈ pieces, ∃ own, m.pieceWrites q = some own ∧ own ⊆ ws := by
  obtain ⟨body, made, looked⟩ := h.exists_encoderBody planned found typed encodes
  rw [is] at made
  obtain ⟨plans, resolved, rfl⟩ := encoderBody_eq_ok made
  rw [Module.writes_eq, looked, Option.bind_some] at written
  obtain ⟨all, whole, written⟩ := Option.bind_eq_some_iff.mp written
  have steps : List.Forall₂ (fun member f => ∃ p, ctx.memberPlan s member.1 member.2 = .ok p ∧
      f = (⟨p.field, p.required, ctx.writeTarget s p⟩ : FieldWrite)) s.members
      (plans.map fun p => ⟨p.field, p.required, ctx.writeTarget s p⟩) := by
    rw [List.forall₂_map_right_iff]
    exact (mapM_eq_ok.mp resolved).imp fun _ p own => ⟨p, own, rfl⟩
  obtain ⟨_, ⟨p, own, rfl⟩, here⟩ := exists_mem_zip_right steps zipped
  obtain ⟨pieces, made, inside⟩ := exists_pieces_of_member whole here
  exact ⟨p, pieces, own, made, fun q mem => Module.exists_writes_of_piece written (inside mem)⟩

/-- A structure whose encoder also writes what is written for the given value of a member. -/
theorem exists_value_with_member {shape : Shape} (found : ctx.service.shape? name = some shape)
    {s : Structure} (is : shape.kind = .struct s) (encodes : ctx.hasEncoder name) {type : String}
    (typed : ctx.names.typeName name = .ok type) (any : ∀ kind, ∃ v, scalars kind v)
    {member : String × Member} (mem : member ∈ s.members) {v : Codec.Value}
    (own : ctx.OfShape scalars member.2.shape v) :
    ∃ outer, ctx.OfShape scalars name outer ∧ ∀ path ws, m.writes type path outer = some ws →
      ∃ p pieces, ctx.memberPlan s member.1 member.2 = .ok p ∧
        memberPiece path ⟨p.field, p.required, ctx.writeTarget s p⟩ (some v) = some pieces ∧
          ∀ q ∈ pieces, ∃ own, m.pieceWrites q = some own ∧ own ⊆ ws := by
  obtain ⟨here, -⟩ := Service.shape?_eq_some found
  have each : ∀ other ∈ s.members, ∃ v', ctx.OfShape scalars other.2.shape v' ∧
      (other = member → v' = v) := by
    intro other inside
    by_cases same : other = member
    · exact ⟨v, same ▸ own, fun _ => rfl⟩
    · obtain ⟨target, found'⟩ := h.exists_member here is inside
      obtain ⟨v', own'⟩ := h.exists_value any found'
      exact ⟨v', own', fun same' => absurd same' same⟩
  obtain ⟨fields, outer, members⟩ := h.exists_fields found is each
  obtain ⟨field, v', zipped, same⟩ := members member mem
  obtain rfl := same rfl
  exact ⟨_, outer, fun path ws =>
    h.exists_writes_of_member planned found is encodes typed zipped⟩

/-- What is written for a nested member is written below the name of the member. -/
theorem exists_value_with_nested {shape : Shape} (found : ctx.service.shape? name = some shape)
    {s : Structure} (is : shape.kind = .struct s) (encodes : ctx.hasEncoder name) {type : String}
    (typed : ctx.names.typeName name = .ok type) (any : ∀ kind, ∃ v, scalars kind v)
    {member : String × Member} (mem : member ∈ s.members) (nested : ctx.isNested s member)
    {type' : String} (typed' : ctx.names.typeName member.2.shape = .ok type') {v : Codec.Value}
    (own : ctx.OfShape scalars member.2.shape v) :
    ∃ outer, ctx.OfShape scalars name outer ∧ ∀ path ws, m.writes type path outer = some ws →
      ∃ wire ws', ctx.wireName member.1 member.2 = .ok wire ∧
        m.writes type' (joinPath path wire) v = some ws' ∧ ws' ⊆ ws := by
  obtain ⟨outer, typedOuter, writes⟩ :=
    h.exists_value_with_member planned found is encodes typed any mem own
  refine ⟨outer, typedOuter, fun path ws written => ?_⟩
  obtain ⟨p, pieces, resolved, made, inside⟩ := writes path ws written
  rw [memberPiece_of_nested resolved nested, Option.some_inj] at made
  subst made
  obtain ⟨-, -, -, memberTyped, -⟩ := memberPlan_eq_ok resolved
  obtain rfl := Except.ok.inj (typed'.symm.trans memberTyped)
  obtain ⟨ws', written', inside⟩ := inside _ List.mem_cons_self
  exact ⟨p.wire, ws', (names_of_memberPlan resolved).2, written', inside⟩

/-- The encoder of a map writes what is written for the key and the value of an entry. -/
theorem writes_of_entry {shape : Shape} (found : ctx.service.shape? name = some shape)
    {key value : Member} (is : shape.kind = .map key value) (encodes : ctx.hasEncoder name)
    {type keyType valueType : String} (typed : ctx.names.typeName name = .ok type)
    (keyTyped : ctx.names.typeName key.shape = .ok keyType)
    (valueTyped : ctx.names.typeName value.shape = .ok valueType) {k : Scalar} {v : Codec.Value}
    {ws : List Write} (written : m.writes type path (.map [(k, v)]) = some ws) :
    (∃ path' ws', m.writes keyType path' (.scalar k) = some ws' ∧ ws' ⊆ ws) ∧
      ∃ path' ws', m.writes valueType path' v = some ws' ∧ ws' ⊆ ws := by
  obtain ⟨body, made, looked⟩ := h.exists_encoderBody planned found typed encodes
  rw [is] at made
  obtain ⟨keyType', valueType', keyTyped', valueTyped', rfl⟩ := encoderBody_eq_ok made
  obtain rfl := Except.ok.inj (keyTyped.symm.trans keyTyped')
  obtain rfl := Except.ok.inj (valueTyped.symm.trans valueTyped')
  rw [Module.writes_eq, looked, Option.bind_some] at written
  exact ⟨⟨_, Module.exists_writes_of_piece written List.mem_cons_self⟩,
    ⟨_, Module.exists_writes_of_piece written (List.mem_cons_of_mem _ List.mem_cons_self)⟩⟩

/-- A part can be handed on as part of a value whose encoder also writes what is written for it. -/
theorem exists_value_with_part (any : ∀ kind, ∃ v, scalars kind v) {outer inner path path' : String}
    (hands : ctx.Hands outer path inner path') (encodes : ctx.hasEncoder outer)
    {type type' : String} (typed : ctx.names.typeName outer = .ok type)
    (typed' : ctx.names.typeName inner = .ok type') {v : Codec.Value}
    (own : ctx.OfShape scalars inner v) :
    ∃ whole, ctx.OfShape scalars outer whole ∧ ∀ path ws, m.writes type path whole = some ws →
      ∃ path' ws', m.writes type' path' v = some ws' ∧ ws' ⊆ ws := by
  cases hands with
  | element found is =>
    obtain ⟨body, made, looked⟩ := h.exists_encoderBody planned found typed encodes
    rw [is] at made
    obtain ⟨element, elementTyped, rfl⟩ := encoderBody_eq_ok made
    obtain rfl := Except.ok.inj (typed'.symm.trans elementTyped)
    refine ⟨.list [v], .list found is (by simpa using own), fun path ws written => ?_⟩
    rw [Module.writes_eq, looked, Option.bind_some] at written
    exact ⟨_, Module.exists_writes_of_piece written List.mem_cons_self⟩
  | @key shape key value found is i =>
    obtain ⟨mem, -⟩ := Service.shape?_eq_some found
    obtain ⟨target, kind, found', primitive, -⟩ := h.exists_keyKind mem is
    obtain ⟨k, rfl, -⟩ := own.exists_scalar found' primitive
    obtain ⟨valueType, valueTyped⟩ := h.exists_valueType mem is
    have here : ("value", value) ∈ shape.parts := by simp [Shape.parts, is]
    obtain ⟨other, found''⟩ := Service.exists_shape_of_part h.references mem here
    obtain ⟨v, typedValue⟩ := h.exists_value any found''
    refine ⟨.map [(k, v)], .map found is (List.pairwise_singleton ..) (by simpa using own)
      (by simpa using typedValue), fun path ws written => ?_⟩
    exact (h.writes_of_entry planned found is encodes typed typed' valueTyped written).1
  | @value shape key value found is i =>
    obtain ⟨mem, -⟩ := Service.shape?_eq_some found
    obtain ⟨target, kind, found', primitive, -⟩ := h.exists_keyKind mem is
    obtain ⟨_, typedKey⟩ := h.exists_value any found'
    obtain ⟨k, rfl, -⟩ := typedKey.exists_scalar found' primitive
    obtain ⟨keyType, keyTyped⟩ := h.exists_keyType mem is
    refine ⟨.map [(k, v)], .map found is (List.pairwise_singleton ..) (by simpa using typedKey)
      (by simpa using own), fun path ws written => ?_⟩
    exact (h.writes_of_entry planned found is encodes typed keyTyped typed' written).2
  | member found is mem nested wired =>
    obtain ⟨whole, typedWhole, writes⟩ := h.exists_value_with_nested planned found is encodes typed
      any mem nested typed' own
    refine ⟨whole, typedWhole, fun path ws written => ?_⟩
    obtain ⟨_, ws', -, written', inside⟩ := writes path ws written
    exact ⟨_, ws', written', inside⟩

omit planned in
theorem exists_type_of_hands {outer inner path path' : String}
    (hands : ctx.Hands outer path inner path') : ∃ type, ctx.names.typeName inner = .ok type := by
  cases hands with
  | element found is => exact h.exists_elementType (Service.shape?_eq_some found).1 is
  | key found is => exact h.exists_keyType (Service.shape?_eq_some found).1 is
  | value found is => exact h.exists_valueType (Service.shape?_eq_some found).1 is
  | member found is mem =>
    obtain ⟨target, found'⟩ := h.exists_member (Service.shape?_eq_some found).1 is mem
    exact h.exists_typeName found'

/-- A structure with a member in the query string has a value for which that is written. -/
theorem exists_value_of_query (any : ∀ kind, ∃ v, scalars kind v)
    (query : ctx.HasQuery name param) (encodes : ctx.hasEncoder name) {type : String}
    (typed : ctx.names.typeName name = .ok type) :
    ∃ v, ctx.OfShape scalars name v ∧ ∀ path ws, m.writes type path v = some ws →
      ∃ text, .param param text ∈ ws := by
  obtain ⟨shape, s, member, found, is, mem, location, wired⟩ := query
  obtain ⟨here, -⟩ := Service.shape?_eq_some found
  have apart : ctx.isNested s member = false := by simp [isNested, location]
  obtain ⟨target, kind, found', primitive⟩ := h.exists_primitive here is mem apart
  obtain ⟨v, own⟩ := any kind
  obtain ⟨whole, typedWhole, writes⟩ := h.exists_value_with_member planned found is encodes typed
    any mem (.scalar found' primitive own)
  refine ⟨whole, typedWhole, fun path ws written => ⟨v.toText, ?_⟩⟩
  obtain ⟨p, pieces, resolved, made, inside⟩ := writes path ws written
  obtain rfl := Except.ok.inj (wired.symm.trans (names_of_memberPlan resolved).2)
  obtain ⟨-, same, -⟩ := memberPlan_eq_ok resolved
  have target : ctx.writeTarget s p = .queryParam p.wire := by rw [writeTarget, same, location]
  rw [target] at made
  cases made
  obtain ⟨_, ⟨⟩, listed⟩ := inside _ List.mem_cons_self
  exact listed List.mem_cons_self

/-- Where the encoders that are called lead to a structure with a member in the query string, some
value has that written. The query string does not ask where the structure stands, so that any path
will do. -/
theorem exists_value_of_calls (any : ∀ kind, ∃ v, scalars kind v) {owner : String}
    (calls : ReflTransGen ctx.Calls name owner) (query : ctx.HasQuery owner param)
    (encodes : ctx.hasEncoder name) {type : String} (typed : ctx.names.typeName name = .ok type) :
    ∃ v, ctx.OfShape scalars name v ∧ ∀ path ws, m.writes type path v = some ws →
      ∃ text, .param param text ∈ ws := by
  induction calls using ReflTransGen.head_induction_on generalizing type with
  | refl => exact h.exists_value_of_query planned any query encodes typed
  | head call _ ih =>
    obtain ⟨_, _, hands⟩ := call
    obtain ⟨type', typed'⟩ := h.exists_type_of_hands hands
    obtain ⟨v, own, below⟩ := ih (h.hasEncoder_of_hands hands encodes) typed'
    obtain ⟨whole, typedWhole, writes⟩ :=
      h.exists_value_with_part planned any hands encodes typed typed' own
    refine ⟨whole, typedWhole, fun path ws written => ?_⟩
    obtain ⟨path', ws', written', inside⟩ := writes path ws written
    exact (below path' ws' written').imp fun _ mem => inside mem

/-- Names that lead to a scalar are followed by some value. -/
theorem exists_value_of_leads (any : ∀ kind, ∃ v, scalars kind v)
    (leads : ctx.Leads param path name) (encodes : ctx.hasEncoder name) {type : String}
    (typed : ctx.names.typeName name = .ok type) :
    ∃ v, ctx.OfShape scalars name v ∧ ∀ ws, m.writes type path v = some ws →
      ∃ text, .param param text ∈ ws := by
  induction leads generalizing type with
  | scalar found is =>
    obtain ⟨body, made, looked⟩ := h.exists_encoderBody planned found typed encodes
    rw [is] at made
    obtain rfl := encoderBody_eq_ok made
    obtain ⟨v, own⟩ := any _
    refine ⟨_, .scalar found is own, fun ws written => ⟨v.toText, ?_⟩⟩
    rw [Module.writes, looked] at written
    cases written
    exact List.mem_cons_self
  | @member name path wire shape s member found is mem nested wired _ ih =>
    have hands : ctx.Hands _ path _ _ := .member found is mem nested wired
    obtain ⟨type', typed'⟩ := h.exists_type_of_hands hands
    obtain ⟨v, own, below⟩ := ih (h.hasEncoder_of_hands hands encodes) typed'
    obtain ⟨whole, typedWhole, writes⟩ := h.exists_value_with_nested planned found is encodes
      typed any mem nested typed' own
    refine ⟨whole, typedWhole, fun ws written => ?_⟩
    obtain ⟨_, ws', wired', written', inside⟩ := writes path ws written
    obtain rfl := Except.ok.inj (wired.symm.trans wired')
    exact (below ws' written').imp fun _ mem => inside mem

/-- What may be sent as a parameter is sent for some value. -/
theorem exists_value_of_maySend (any : ∀ kind, ∃ v, scalars kind v)
    (sends : ctx.MaySend param path name) (encodes : ctx.hasEncoder name) {type : String}
    (typed : ctx.names.typeName name = .ok type) :
    ∃ v, ctx.OfShape scalars name v ∧ ∀ ws, m.writes type path v = some ws →
      ∃ text, .param param text ∈ ws := by
  rcases sends with ⟨owner, calls, query⟩ | leads
  · obtain ⟨v, own, writes⟩ := h.exists_value_of_calls planned any calls query encodes typed
    exact ⟨v, own, writes path⟩
  · exact h.exists_value_of_leads planned any leads encodes typed

/-- The client has one method for each operation. -/
theorem exists_method? {o : Operation} (mem : o ∈ ctx.service.operations) :
    ∃ op, m.method? o.name = some op ∧ ctx.method o = .ok op := by
  have called := (plan_eq_ok planned).2.2.2
  obtain ⟨op, zipped, made⟩ := exists_mem_zip called mem
  refine ⟨op, ?_, made⟩
  have here : op ∈ m.client.methods := (List.of_mem_zip zipped).2
  have own := method_eq_ok made
  cases found : m.method? o.name with
  | none => simpa [own.operation] using List.find?_eq_none.mp found op here
  | some op' =>
    have here' := List.mem_of_find?_eq_some found
    have same := List.find?_some found
    obtain ⟨o', -, made'⟩ := exists_mem_left called here'
    have own' := method_eq_ok made'
    rw [beq_iff_eq, own'.operation] at same
    have named' := own'.name
    rw [same] at named'
    have distinct := (h.methodNames_distinct planned).2.of_append_right
    rw [List.inj_on_of_nodup_map distinct here' here
      (Except.ok.inj (named'.symm.trans own.name))]

end Checked

/-- The inputs of an operation. -/
def Takes (ctx : Context) (o : Operation) (input : Option Codec.Value) : Prop :=
  Option.Rel (ctx.OfShape fun kind v => Scalar.isOf kind v) o.input input

/-- Every request of the method has the parameter with that value. -/
def Keeps (ctx : Context) (m : Module) (o : Operation) (op : Method) (param value : String) :
    Prop :=
  ∀ region input, ctx.Takes o input →
    ∃ r, request? m region op input = some r ∧ r.params.get? param = some value

theorem get?_freshRequest (json : ctx.protocol = .json) (m : Module) (region : String)
    {o : Operation} {op : Method} (made : ctx.method o = .ok op) :
    (freshRequest m region op).params.get? "Action" = some o.name ∧
      ∀ version, ctx.service.metadata.apiVersion = some version →
        (freshRequest m region op).params.get? "Version" = some version := by
  rw [freshRequest, (method_eq_ok made).setup, setup, json]
  cases ctx.service.metadata.apiVersion <;> cases ctx.service.metadata.targetPrefix <;>
    cases ctx.service.metadata.jsonVersion <;>
    simp [applySetup, Request.putParam, Request.addHeader, Table.put, Table.get?_cons]

theorem request?_of_none {o : Operation} {op : Method} (made : ctx.method o = .ok op)
    (bare : o.input = none) (m : Module) (region : String) :
    request? m region op none = some (freshRequest m region op) := by
  simp [request?, (method_eq_ok made).input_eq_none bare]

namespace Checked
variable {m : Module} (h : ctx.Checked) (planned : ctx.plan = .ok m) {o : Operation} {op : Method}
  (mem : o ∈ ctx.service.operations) (made : ctx.method o = .ok op)
include h planned mem made

/-- A method takes every input of its operation, and writes what the schema tells to the request. -/
theorem exists_request {scalars : PrimitiveKind → Scalar → Prop} {shape : String}
    (taken : o.input = some shape) (region : String) {v : Codec.Value}
    (typed : ctx.OfShape scalars shape v) :
    ∃ type ws, ctx.names.typeName shape = .ok type ∧ m.writes type "" v = some ws ∧
      request? m region op (some v) = some ((freshRequest m region op).writeAll ws) ∧
        ∀ w ∈ ws, ctx.Sends scalars shape "" w := by
  obtain ⟨encodes, -⟩ := h.hasCodecs_of_operation mem
  obtain ⟨type, own, named⟩ := (method_eq_ok made).exists_input taken
  obtain ⟨ws, written, sends⟩ : ∃ ws, m.writes type "" v = some ws ∧
      ∀ w ∈ ws, ctx.Sends scalars shape "" w := h.exists_writes planned typed named (encodes taken)
  exact ⟨type, ws, named, written, by simp [request?, own, Module.encode, written], sends⟩

theorem exists_request_of_takes (region : String) {input : Option Codec.Value}
    (takes : ctx.Takes o input) : ∃ r, request? m region op input = some r := by
  unfold Takes at takes
  cases taken : o.input with
  | none =>
    rw [taken] at takes
    cases takes
    exact ⟨_, request?_of_none made taken m region⟩
  | some shape =>
    rw [taken] at takes
    cases takes with
    | some typed =>
      obtain ⟨_, _, -, -, requested, -⟩ := h.exists_request planned mem made taken region typed
      exact ⟨_, requested⟩

/-- A parameter that requests start with keeps its value unless a part of the input may be sent
under the same name: any other value of that part replaces it. -/
theorem keeps_iff {param value : String} (plain : IsPlain param)
    (held : ∀ region, (freshRequest m region op).params.get? param = some value) :
    ctx.Keeps m o op param value ↔ ∀ shape, o.input = some shape → ¬ctx.MaySend param "" shape := by
  constructor
  · intro keeps shape taken sends
    obtain ⟨target, found⟩ := Service.exists_shape_of_input h.references mem taken
    obtain ⟨type, typed⟩ := h.exists_typeName found
    have encodes := (h.hasCodecs_of_operation mem).1 taken
    -- Other members may be sent under the same name, but none of this value holds what was set up.
    obtain ⟨v, own, writes⟩ := h.exists_value_of_maySend planned
      (fun kind => Scalar.exists_isOf_ne kind value) sends encodes typed
    obtain ⟨type', ws, typed', written, requested, sent⟩ :=
      h.exists_request planned mem made taken "" own
    obtain rfl := Except.ok.inj (typed.symm.trans typed')
    have input : ctx.Takes o (some v) := by
      rw [Takes, taken]
      exact .some (own.mono fun _ _ => And.left)
    obtain ⟨r, same, kept⟩ := keeps "" (some v) input
    obtain rfl := Option.some.inj (requested.symm.trans same)
    rcases Request.get?_writeAll (freshRequest m "" op) ws param with ⟨text, last, now⟩ | ⟨none, -⟩
    · obtain ⟨⟨kind, x, ⟨-, other⟩, spelt⟩, -⟩ := (sent _ last).maySend rfl
      exact other (spelt.trans (Option.some.inj (now.symm.trans kept)))
    · obtain ⟨text, wrote⟩ := writes ws written
      exact none text wrote
  · intro free region input takes
    unfold Takes at takes
    cases taken : o.input with
    | none =>
      rw [taken] at takes
      cases takes
      exact ⟨_, request?_of_none made taken m region, held region⟩
    | some shape =>
      rw [taken] at takes
      cases takes with
      | some typed =>
        obtain ⟨_, ws, -, -, requested, sent⟩ :=
          h.exists_request planned mem made taken region typed
        refine ⟨_, requested, ?_⟩
        rcases Request.get?_writeAll (freshRequest m region op) ws param with
          ⟨text, last, -⟩ | ⟨-, now⟩
        · exact absurd (((sent _ last).maySend rfl).2 plain) (free shape taken)
        · rw [now, held]

end Checked
end Context

/-- A JSON client sends its own action and version with every input of an operation, except for
operations in whose input a member may be sent under the same name: one in the query string of any
structure, or one at the top. -/
theorem own_parameters_kept_iff {text : String} {service : Service} {config : Config}
    {ctx : Context} (loaded : Service.load text = .ok service)
    (made : Context.new service config = .ok ctx) (valid : ctx.validate = .ok ())
    (json : ctx.protocol = .json) :
    ∃ m, ctx.plan = .ok m ∧ ∀ o ∈ service.operations, ∃ op, m.method? o.name = some op ∧
      (∀ region input, ctx.Takes o input → ∃ r, request? m region op input = some r) ∧
      (ctx.Keeps m o op "Action" o.name ↔
        ∀ shape, o.input = some shape → ¬ctx.MaySend "Action" "" shape) ∧
      ∀ version, service.metadata.apiVersion = some version →
        (ctx.Keeps m o op "Version" version ↔
          ∀ shape, o.input = some shape → ¬ctx.MaySend "Version" "" shape) := by
  have h := Context.Checked.ofLoad loaded made valid
  obtain ⟨rfl, -⟩ := Context.new_eq_ok made
  obtain ⟨m, planned⟩ := h.exists_plan
  refine ⟨m, planned, fun o mem => ?_⟩
  obtain ⟨op, found, own⟩ := h.exists_method? planned mem
  have start := fun region => Context.get?_freshRequest json m region own
  refine ⟨op, found, fun region input => h.exists_request_of_takes planned mem own region, ?_, ?_⟩
  · exact h.keeps_iff planned mem own (by constructor <;> decide) fun region => (start region).1
  · intro version given
    exact h.keeps_iff planned mem own (by constructor <;> decide)
      fun region => (start region).2 version given

/-- A service with two operations. One takes an action as its input, the other has it inside of a
filter. -/
def actsText : String :=
  "\x7b\"metadata\":[\"acts\",\"json\",\"1\"],
    \"operations\":\x7b\"Find\":[[],[\"Filter\"]],\"Run\":[[],[\"Act\"]]\x7d,
    \"shapes\":\x7b\"Act\":[\"structure\",\x7b\"Action\":[\"String\"]\x7d],
    \"Filter\":[\"structure\",\x7b\"By\":[\"Act\"]\x7d],\"String\":[\"string\"]\x7d\x7d"

def findOperation : Operation where
  name := "Find"
  method := .post
  requestUri := "/"
  input := some "Filter"
  output := none
  documentation := none

def runOperation : Operation :=
  { findOperation with name := "Run", input := some "Act" }

def acts : Service where
  metadata := { endpointPrefix := "acts", protocol := some "json", apiVersion := some "1" }
  operations := [findOperation, runOperation]
  shapes :=
    [ { name := "Act", kind := .struct
          { members := [("Action", { shape := "String" })], required := [], payload := none } },
      { name := "Filter", kind := .struct
          { members := [("By", { shape := "Act" })], required := [], payload := none } },
      { name := "String", kind := .primitive .string } ]

set_option maxRecDepth 4000 in
theorem load_actsText : Service.load actsText = .ok acts :=
  Service.load_ofList (by decide +kernel)

theorem exists_context_acts :
    ∃ ctx, Context.new acts {} = .ok ctx ∧ ctx.validate = .ok () ∧ ctx.protocol = .json := by
  have checked : (do
      let ctx ← Context.new acts {}
      ctx.validate
      .ok ctx.protocol).toOption = some Protocol.json := rfl
  obtain ⟨ctx, made, checked⟩ := bind_eq_ok.mp (eq_ok_of_toOption checked)
  obtain ⟨valid, json⟩ := then_eq_ok.mp checked
  exact ⟨ctx, made, valid, Except.ok.inj json⟩

theorem acts_find_keeps_action : Service.load actsText = .ok acts ∧
    ∃ ctx m op, Context.new acts {} = .ok ctx ∧ ctx.validate = .ok () ∧ ctx.protocol = .json ∧
      ctx.plan = .ok m ∧ m.method? "Find" = some op ∧
      ctx.Keeps m findOperation op "Action" "Find" := by
  obtain ⟨ctx, made, valid, json⟩ := exists_context_acts
  obtain ⟨m, planned, each⟩ := own_parameters_kept_iff load_actsText made valid json
  obtain ⟨op, found, -, keeps, -⟩ := each findOperation List.mem_cons_self
  refine ⟨load_actsText, ctx, m, op, made, valid, json, planned, found, keeps.mpr ?_⟩
  obtain ⟨same, -⟩ := Context.new_eq_ok made
  rintro shape ⟨⟩ (⟨owner, -, query⟩ | leads)
  · obtain ⟨shape, s, member, found, is, mem, location, -⟩ := query
    have none : ∀ shape ∈ acts.shapes, ∀ s, shape.kind = .struct s →
        ∀ member ∈ s.members, member.2.location ≠ .queryString := by
      simp [acts]
    exact none shape (same ▸ (Service.shape?_eq_some found).1) s is member mem location
  · generalize top : "" = path at leads
    cases leads with
    | scalar => exact absurd top (by decide)
    | member found is mem nested wired below =>
      have only : acts.shape? "Filter" = some acts.shapes[1] := rfl
      rw [same, only] at found
      cases found
      cases is
      obtain rfl := List.mem_singleton.mp mem
      have wire : ctx.wireName "By" { shape := "Act" } = .ok "By" := by
        rw [Context.wireName, Context.shape, same]
        rfl
      cases wire.symm.trans wired
      rw [← top] at below
      rcases below.ends (by constructor <;> decide) with other | other
      · exact absurd other (by decide)
      · exact absurd other (by decide)

/-- The input of the other operation is an action that takes the place of its own. -/
theorem action_replaced_by_input : Service.load actsText = .ok acts ∧
    ∃ ctx m op r, Context.new acts {} = .ok ctx ∧ ctx.validate = .ok () ∧ ctx.protocol = .json ∧
      ctx.plan = .ok m ∧ m.method? "Run" = some op ∧
      ctx.Takes runOperation (some (.struct [("action", some (.text "Find"))])) ∧
      request? m "eu-west-1" op (some (.struct [("action", some (.text "Find"))])) = some r ∧
      r.params = [("Action", "Find"), ("Version", "1")] := by
  have sent : ((planService acts {}).toOption.bind fun m => (m.method? "Run").bind fun op =>
      (request? m "eu-west-1" op (some (.struct [("action", some (.text "Find"))]))).map
        (·.params)) = some [("Action", "Find"), ("Version", "1")] := rfl
  have named : ((Context.new acts {}).toOption.map fun ctx =>
      (ctx.names.snakeName "Action").toOption) = some (some "action") := rfl
  obtain ⟨m, assembled, sent⟩ := Option.bind_eq_some_iff.mp sent
  obtain ⟨op, found, sent⟩ := Option.bind_eq_some_iff.mp sent
  obtain ⟨r, requested, params⟩ := Option.map_eq_some_iff.mp sent
  obtain ⟨ctx, made, valid, json⟩ := exists_context_acts
  have planned : ctx.plan = .ok m := by
    have whole := eq_ok_of_toOption assembled
    simpa [planService, made, valid, bind, Except.bind] using whole
  rw [made] at named
  obtain ⟨same, -⟩ := Context.new_eq_ok made
  have act : ctx.service.shape? "Act" = some acts.shapes[0] := by
    rw [same]
    rfl
  have string : ctx.service.shape? "String" = some acts.shapes[2] := by
    rw [same]
    rfl
  refine ⟨load_actsText, ctx, m, op, r, made, valid, json, planned, found, .some ?_, requested,
    params⟩
  refine .struct act rfl (.cons (eq_ok_of_toOption (Option.some.inj named)) .nil) (by decide) ?_
  simpa [acts, Value.text] using Context.OfShape.scalar (v := .text "Find") string rfl rfl

end ServiceClient.Generator
