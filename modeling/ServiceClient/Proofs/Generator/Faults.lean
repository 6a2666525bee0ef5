import Mathlib.Data.List.Pairwise
import ServiceClient.Proofs.Generator.DefinedNames
import ServiceClient.Proofs.Generator.Dependencies
import ServiceClient.Proofs.Generator.Identifiers
import ServiceClient.Proofs.Generator.Recursion
import ServiceClient.Proofs.Schema.Loading

/-! Refused services. Each error of validation tells of something that is wrong with the service:
the shapes, members or operations that it names are there and do what it says. -/

namespace ServiceClient.Generator
open ServiceClient.Code ServiceClient.Codec ServiceClient.Schema ServiceClient.Sequence

/-- What names in generated code come from. -/
inductive Owner where
  | shape (s : Shape)
  | operation (o : Operation)
  | client

def Owner.label : Owner → String
  | .shape s => s.name
  | .operation o => o.name
  | .client => "(client)"

namespace Context

/-- What the names of the shape's type, encoder and decoder are resolved to. -/
def NamesItem (ctx : Context) (shape : Shape) (resolution : Except Error String) : Prop :=
  ¬isNativeString shape ∧ ctx.names.typeName shape.name = resolution ∨
    ctx.hasEncoder shape.name ∧ ctx.names.encoderName shape.name = resolution ∨
    ctx.hasDecoder shape.name ∧ ctx.names.decoderName shape.name = resolution

/-- The type, encoder or decoder of a shape, or the client, is called that, and so are the emitted
items. -/
inductive MakesItem (ctx : Context) : Owner → String → Prop where
  | shape {shape : Shape} {name : String} (mem : shape ∈ ctx.service.shapes)
      (named : ctx.NamesItem shape (.ok name))
      (declared : ∀ plan, ctx.shapePlan shape = .ok plan →
        name ∈ (Emit.shapeItems ctx.protocol plan).filterMap Item.declared?) :
      MakesItem ctx (.shape shape) name
  | client (declared : ∀ c, ctx.client = .ok c →
        ctx.names.clientName ∈ (Emit.client ctx.protocol c).filterMap Item.declared?) :
      MakesItem ctx .client ctx.names.clientName

/-- The method of an operation, or one that every client has, is called that. -/
inductive MakesMethod (ctx : Context) : Owner → String → Prop where
  | operation {o : Operation} {name : String} (mem : o ∈ ctx.service.operations)
      (named : ctx.names.snakeName o.name = .ok name) : MakesMethod ctx (.operation o) name
  | client {name : String} (listed : name ∈ [Emit.newMethod.name, Emit.regionMethod.name]) :
      MakesMethod ctx .client name

/-- What is wrong with a service where an error is reported. -/
inductive Fault (ctx : Context) : Error → Prop where
  | unsupportedLocation {shape target : Shape} {s : Structure} {name : String} {m : Member}
      (mem : shape ∈ ctx.service.shapes) (kind : shape.kind = .struct s)
      (here : (name, m) ∈ s.members) (placed : m.location ∈ [.header, .uri, .queryString])
      (found : ctx.service.shape? m.shape = some target) (other : ∀ k, target.kind ≠ .primitive k) :
      Fault ctx (.unsupportedLocation shape.name name m.location.word target.name)
  | invalidMapKey {shape target : Shape} {key value : Member}
      (mem : shape ∈ ctx.service.shapes) (kind : shape.kind = .map key value)
      (found : ctx.service.shape? key.shape = some target)
      (unordered : ∀ k, target.kind = .primitive k → k.isOrderable = false) :
      Fault ctx (.invalidMapKey shape.name key.shape)
  | recursiveShape {shape : String} {path : List String} (cycle : ctx.service.IsCycle shape path) :
      Fault ctx (.recursiveShape shape path)
  | nameCollision {a b : Owner} {name : String} (apart : a ≠ b) (first : ctx.MakesItem a name)
      (second : ctx.MakesItem b name) : Fault ctx (.nameCollision a.label b.label name)
  | fieldCollision {shape : Shape} {s : Structure} {a b : String × Member} {field : String}
      (mem : shape ∈ ctx.service.shapes) (kind : shape.kind = .struct s) (first : a ∈ s.members)
      (second : b ∈ s.members) (apart : a.1 ≠ b.1) (named : ctx.names.snakeName a.1 = .ok field)
      (named' : ctx.names.snakeName b.1 = .ok field) :
      Fault ctx (.fieldCollision shape.name a.1 b.1 field)
  | wireNameCollision {shape : Shape} {s : Structure} {a b : String × Member} {wire : String}
      (mem : shape ∈ ctx.service.shapes) (kind : shape.kind = .struct s)
      (first : a ∈ bodyMembers s) (second : b ∈ bodyMembers s) (apart : a.1 ≠ b.1)
      (wired : ctx.wireName a.1 a.2 = .ok wire) (wired' : ctx.wireName b.1 b.2 = .ok wire) :
      Fault ctx (.wireNameCollision shape.name a.1 b.1 wire)
  | methodCollision {a b : Owner} {name : String} (apart : a ≠ b) (first : ctx.MakesMethod a name)
      (second : ctx.MakesMethod b name) : Fault ctx (.methodCollision a.label b.label name)
  | shapeCodec {shape : Shape} {plan : ShapePlan} {part : String} {m : Member} {codec : Codec}
      (mem : shape ∈ ctx.service.shapes) (here : (part, m) ∈ shape.parts)
      (planned : ctx.shapePlan shape = .ok plan)
      (calls : ctx.CallsMissing codec
        ((emittedCodec ctx.protocol plan codec).flatMap Item.uses) m.shape) :
      Fault ctx (.missingCodec s!"{shape.name}.{part}" m.shape codec)
  | operationCodec {o : Operation} {m : Method} {referenced : String} {codec : Codec}
      (mem : o ∈ ctx.service.operations) (here : codedShape? o codec = some referenced)
      (made : ∀ name, ctx.names.snakeName o.name = .ok name → ctx.method o = .ok { m with name })
      (calls : ctx.CallsMissing codec (Emit.method ctx.protocol m).uses referenced) :
      Fault ctx (.missingCodec s!"operation {o.name}" referenced codec)
  | invalidType {shape : Shape} {reason : Refusal} (mem : shape ∈ ctx.service.shapes)
      (refused : ctx.names.typeName shape.name = .error (.invalidIdentifier shape.name reason))
      (unnamed : ¬HasLetterOrDigit shape.name ∨
        Text.pascalCase shape.name = "Self" ∧ "Self" ∉ ctx.config.reservedNames) :
      Fault ctx (.invalidIdentifier shape.name reason)
  | invalidField {shape : Shape} {s : Structure} {m : String × Member} {reason : Refusal}
      (mem : shape ∈ ctx.service.shapes) (kind : shape.kind = .struct s) (here : m ∈ s.members)
      (refused : ctx.names.snakeName m.1 = .error (.invalidIdentifier m.1 reason))
      (unnamed : ¬HasLetterOrDigit m.1) :
      Fault ctx (.invalidIdentifier m.1 reason)
  | invalidMethod {o : Operation} {reason : Refusal} (mem : o ∈ ctx.service.operations)
      (refused : ctx.names.snakeName o.name = .error (.invalidIdentifier o.name reason))
      (unnamed : ¬HasLetterOrDigit o.name) :
      Fault ctx (.invalidIdentifier o.name reason)

/-- What is known of a context for a loaded service: its references are defined, its shapes, its
operations and the members of each structure have names of their own, and its names are resolved by
an accepted configuration. -/
structure Sound (ctx : Context) : Prop where
  references : ctx.service.checkReferences = .ok ()
  shapes_ascending : (ctx.service.shapes.map (·.name)).Pairwise (· < ·)
  operations_ascending : (ctx.service.operations.map (·.name)).Pairwise (· < ·)
  members_nodup : ∀ shape ∈ ctx.service.shapes, ∀ s, shape.kind = .struct s →
    (s.members.map (·.1)).Nodup
  accepted : ctx.config.validate = .ok ()
  names_new : Names.new ctx.service ctx.config = .ok ctx.names

theorem Sound.ofLoad {text : String} {service : Service} {config : Config} {ctx : Context}
    (loaded : Service.load text = .ok service) (made : new service config = .ok ctx) :
    ctx.Sound := by
  obtain ⟨rfl, rfl, -, -⟩ := new_eq_ok made
  exact {
    references := Service.checkReferences_load loaded
    shapes_ascending := Service.shapes_ascending_of_load loaded
    operations_ascending := Service.operations_ascending_of_load loaded
    members_nodup := fun _ mem _ kind => Service.memberNames_nodup_of_load loaded mem kind
    accepted := accepted_of_new made
    names_new := names_of_new made }

end Context

section Refusals
variable {name : String} {e : Error}

theorem checkIdentifier_eq_error {identifier : String}
    (refused : checkIdentifier name identifier = .error e) :
    ∃ reason, e = .invalidIdentifier name reason := by
  simp only [checkIdentifier] at refused
  split at refused
  · exact ⟨_, (Except.error.inj refused).symm⟩
  split at refused
  · cases refused
  · exact ⟨_, (Except.error.inj refused).symm⟩

namespace Context
variable {ctx : Context} (sound : ctx.Sound)
include sound

theorem typeName_eq_error (refused : ctx.names.typeName name = .error e) :
    (∃ reason, e = .invalidIdentifier name reason) ∧ (¬HasLetterOrDigit name ∨
      Text.pascalCase name = "Self" ∧ "Self" ∉ ctx.config.reservedNames) := by
  constructor
  · simp only [Names.typeName] at refused
    split at refused
    · exact ⟨_, (Except.error.inj refused).symm⟩
    · exact checkIdentifier_eq_error refused
  · by_cases named : HasLetterOrDigit name
    · rcases Names.typeName_cases sound.names_new named with ⟨own, free, -⟩ | ⟨-, type, -, typed⟩
      · exact .inr ⟨own, free⟩
      · cases refused.symm.trans typed
    · exact .inl named

theorem snakeName_eq_error (refused : ctx.names.snakeName name = .error e) :
    (∃ reason, e = .invalidIdentifier name reason) ∧ ¬HasLetterOrDigit name := by
  constructor
  · simp only [Names.snakeName] at refused
    split at refused
    · exact ⟨_, (Except.error.inj refused).symm⟩
    · exact checkIdentifier_eq_error refused
  · intro named
    obtain ⟨-, own, -⟩ := Names.new_eq_ok sound.names_new
    have accepted := sound.accepted
    rw [← own] at accepted
    cases refused.symm.trans (Names.snakeName_of_validate accepted named)

end Context
end Refusals

namespace Context
variable {ctx : Context} {e : Error}

section Shapes
variable (references : ctx.service.checkReferences = .ok ()) {shape : Shape}
  (mem : shape ∈ ctx.service.shapes)
include references mem

theorem fault_of_checkLocations {s : Structure} (kind : shape.kind = .struct s)
    (refused : ctx.checkLocations shape s = .error e) : ctx.Fault e := by
  obtain ⟨⟨name, m⟩, here, refused⟩ := exists_of_forM_eq_error refused
  have part : (name, m) ∈ shape.parts := by simpa [Shape.parts, kind] using here
  obtain ⟨target, found⟩ := Service.exists_shape_of_part references mem part
  by_cases inside : m.location = .payload
  · simp [inside] at refused
  have outside : (m.location == .payload) = false := beq_eq_false_iff_ne.mpr inside
  simp only [outside, shape_eq_ok.mpr found, bind, Except.bind, Bool.false_eq_true, if_false]
    at refused
  split at refused
  · cases refused
  · rename_i plain
    cases refused
    refine .unsupportedLocation mem kind here ?_ found fun k primitive => plain ?_
    · cases location : m.location <;> simp_all
    · simp [Shape.primitive?, primitive]

theorem fault_of_checkMapKey {key value : Member} (kind : shape.kind = .map key value)
    (refused : ctx.checkMapKey shape key = .error e) : ctx.Fault e := by
  have part : ("key", key) ∈ shape.parts := by simp [Shape.parts, kind]
  obtain ⟨target, found⟩ := Service.exists_shape_of_part references mem part
  simp only [checkMapKey, shape_eq_ok.mpr found, bind, Except.bind] at refused
  split at refused
  · cases refused
  · rename_i unordered
    cases refused
    refine .invalidMapKey mem kind found fun k primitive => ?_
    simpa [Shape.primitive?, primitive] using unordered

theorem fault_of_checkShape (refused : ctx.checkShape shape = .error e) : ctx.Fault e := by
  cases kind : shape.kind with
  | primitive | list => simp [checkShape, kind] at refused
  | struct s =>
    simp only [checkShape, kind] at refused
    exact fault_of_checkLocations references mem kind refused
  | map key value =>
    simp only [checkShape, kind] at refused
    exact fault_of_checkMapKey references mem kind refused

end Shapes

section Items

/-- The item names of the service, each with what makes it. -/
def ownedItems (ctx : Context) : List (Except Error String × Owner) :=
  (ctx.service.shapes.flatMap fun shape =>
    (ctx.itemNames shape).map fun p => (p.1, Owner.shape shape)) ++
    [(Except.ok ctx.names.clientName, Owner.client)]

theorem checkTypeNames_eq (ctx : Context) : ctx.checkTypeNames =
    claimNames .nameCollision (([] : List (String × Owner)).map fun p => (p.1, p.2.label))
      (ctx.ownedItems.map fun p => (p.1, p.2.label)) := by
  have labels : ∀ shape, ((ctx.itemNames shape).map fun p => (p.1, shape.name)) =
      ctx.itemNames shape := by
    intro shape
    rw [itemNames]
    split <;> split <;> split <;> simp only [List.map_append, List.map_cons, List.map_nil]
  simp [checkTypeNames, ownedItems, List.map_flatMap, Function.comp_def, Owner.label, labels]

/-- The type, encoder and decoder of one shape have different names. -/
theorem itemNames_apart (shape : Shape) : (ctx.itemNames shape).Pairwise fun p q =>
    ∀ name, p.1 = .ok name → q.1 ≠ .ok name := by
  cases typed : ctx.names.typeName shape.name <;>
    simp only [itemNames, Names.encoderName, Names.decoderName, typed, Except.map] <;>
    split <;> split <;> split <;> simp

theorem ownedItems_apart (sound : ctx.Sound) : ctx.ownedItems.Pairwise fun p q =>
    ∀ name, p.1 = .ok name → q.1 = .ok name → p.2 ≠ q.2 := by
  rw [ownedItems, List.pairwise_append, List.pairwise_flatMap]
  refine ⟨⟨fun shape _ => ?_, ?_⟩, List.pairwise_singleton _ _, fun p mem q last => ?_⟩
  · rw [List.pairwise_map]
    exact (itemNames_apart shape).imp fun apart name first second =>
      absurd second (apart name first)
  · refine (List.pairwise_map.mp sound.shapes_ascending).imp ?_
    intro shape other less p mem q mem'
    obtain ⟨_, -, rfl⟩ := List.mem_map.mp mem
    obtain ⟨_, -, rfl⟩ := List.mem_map.mp mem'
    rintro name - - ⟨⟩
    exact String.lt_irrefl _ less
  · obtain ⟨shape, -, here⟩ := List.mem_flatMap.mp mem
    obtain ⟨_, -, rfl⟩ := List.mem_map.mp here
    obtain rfl := List.mem_singleton.mp last
    rintro name - - ⟨⟩

theorem namesItem_of_mem {shape : Shape} {resolution : Except Error String} {label : String}
    (listed : (resolution, label) ∈ ctx.itemNames shape) : ctx.NamesItem shape resolution := by
  simp only [itemNames, List.mem_append] at listed
  rcases listed with (type | encoder) | decoder
  · split at type
    · cases type
    · rename_i plain
      have same := Prod.mk.inj (List.mem_singleton.mp type)
      exact .inl ⟨plain, same.1.symm⟩
  · split at encoder
    · rename_i encodes
      have same := Prod.mk.inj (List.mem_singleton.mp encoder)
      exact .inr (.inl ⟨encodes, same.1.symm⟩)
    · cases encoder
  · split at decoder
    · rename_i decodes
      have same := Prod.mk.inj (List.mem_singleton.mp decoder)
      exact .inr (.inr ⟨decodes, same.1.symm⟩)
    · cases decoder

/-- Where a shape has a plan, its items declare the names that were claimed for it. -/
theorem declared_of_named {shape : Shape} {name : String}
    (named : ctx.NamesItem shape (.ok name)) {plan : ShapePlan}
    (planned : ctx.shapePlan shape = .ok plan) :
    name ∈ (Emit.shapeItems ctx.protocol plan).filterMap Item.declared? := by
  have items : (Emit.shapeItems ctx.protocol plan).filterMap Item.declared? =
      (declarations (shapeParts ctx.protocol shape plan)).map (·.1) := by
    rw [declarations_names]
    simp [shapeParts, Emit.shapeItems]
  rw [items]
  rcases named with ⟨plain, typed⟩ | ⟨encodes, named⟩ | ⟨decodes, named⟩
  · simp [shapeParts_declarations typed planned, plain]
  · obtain ⟨type, typed, rfl⟩ := Names.encoderName_eq_ok.mp named
    simp [shapeParts_declarations typed planned, encodes, Emit.encoderName]
  · obtain ⟨type, typed, rfl⟩ := Names.decoderName_eq_ok.mp named
    simp [shapeParts_declarations typed planned, decodes, Emit.decoderName]

theorem makesItem_of_mem {a : Owner} {name : String} (mem : (.ok name, a) ∈ ctx.ownedItems) :
    ctx.MakesItem a name := by
  rcases List.mem_append.mp mem with mem | mem
  · obtain ⟨shape, own, here⟩ := List.mem_flatMap.mp mem
    obtain ⟨⟨_, label⟩, listed, ⟨⟩⟩ := List.mem_map.mp here
    have named := namesItem_of_mem listed
    exact .shape own named fun plan planned => declared_of_named named planned
  · obtain ⟨⟩ := List.mem_singleton.mp mem
    refine .client fun c made => ?_
    obtain ⟨methods, -, ⟨⟩⟩ := bind_eq_ok.mp made
    simp [Emit.client, Item.declared?]

theorem fault_of_checkTypeNames (sound : ctx.Sound)
    (refused : ctx.checkTypeNames = .error e) : ctx.Fault e := by
  rw [checkTypeNames_eq] at refused
  rcases claimNames_eq_error refused with ⟨a, mem⟩ | ⟨a, b, name, rfl, twice⟩
  · rcases List.mem_append.mp mem with mem | mem
    · obtain ⟨shape, own, here⟩ := List.mem_flatMap.mp mem
      obtain ⟨⟨_, label⟩, listed, ⟨⟩⟩ := List.mem_map.mp here
      have unnamed : ctx.names.typeName shape.name = .error e := by
        rcases namesItem_of_mem listed with ⟨-, unnamed⟩ | ⟨-, unnamed⟩ | ⟨-, unnamed⟩
        · exact unnamed
        · exact map_eq_error.mp unnamed
        · exact map_eq_error.mp unnamed
      obtain ⟨⟨reason, rfl⟩, none⟩ := typeName_eq_error sound unnamed
      exact .invalidType own unnamed none
    · cases List.mem_singleton.mp mem
  · have apart := List.pairwise_iff_forall_sublist.mp (ownedItems_apart sound) twice name rfl rfl
    have listed := twice.subset
    exact .nameCollision apart (makesItem_of_mem (listed (by simp)))
      (makesItem_of_mem (listed (by simp)))

end Items

section Members

/-- What the tables of the check hold after the first members of a structure: field names, and wire
names outside of headers. -/
structure Tables (ctx : Context) (seen : List (String × Member))
    (fields wires : List (String × String)) : Prop where
  fields : ∀ p ∈ fields, ∃ m, (p.2, m) ∈ seen ∧ ctx.names.snakeName p.2 = .ok p.1
  wires : ∀ p ∈ wires, ∃ m, (p.2, m) ∈ seen ∧ (m.location != .header) = true ∧
    ctx.wireName p.2 m = .ok p.1

variable {seen : List (String × Member)} {fields wires : List (String × String)} {name : String}
  {m : Member}

theorem Tables.field (tables : ctx.Tables seen fields wires) {field : String}
    (named : ctx.names.snakeName name = .ok field) :
    ctx.Tables (seen ++ [(name, m)]) ((field, name) :: fields) wires where
  fields := by
    refine List.forall_mem_cons.mpr ⟨⟨m, by simp, named⟩, fun p mem => ?_⟩
    obtain ⟨m', here, named⟩ := tables.fields p mem
    exact ⟨m', List.mem_append_left _ here, named⟩
  wires p mem := by
    obtain ⟨m', here, wired⟩ := tables.wires p mem
    exact ⟨m', List.mem_append_left _ here, wired⟩

theorem Tables.wire (tables : ctx.Tables seen fields wires) {wire : String}
    (here : (name, m) ∈ seen) (body : (m.location != .header) = true)
    (wired : ctx.wireName name m = .ok wire) :
    ctx.Tables seen fields ((wire, name) :: wires) :=
  ⟨tables.fields, List.forall_mem_cons.mpr ⟨⟨m, here, body, wired⟩, tables.wires⟩⟩

theorem fault_of_checkMembers (sound : ctx.Sound) {shape : Shape}
    (mem : shape ∈ ctx.service.shapes) {s : Structure} (kind : shape.kind = .struct s)
    {rest : List (String × Member)} (whole : s.members = seen ++ rest)
    (tables : ctx.Tables seen fields wires)
    (refused : ctx.checkMembers shape.name fields wires rest = .error e) : ctx.Fault e := by
  induction rest generalizing seen fields wires with
  | nil => cases refused
  | cons entry rest ih =>
    obtain ⟨name, m⟩ := entry
    have here : (name, m) ∈ s.members := by simp [whole]
    have next : s.members = (seen ++ [(name, m)]) ++ rest := by simp [whole]
    have earlier : ∀ {other : String × Member}, other ∈ seen →
        other ∈ s.members ∧ other.1 ≠ name := by
      intro other mem'
      have distinct := sound.members_nodup shape mem s kind
      rw [whole, List.map_append, List.nodup_append] at distinct
      exact ⟨whole ▸ List.mem_append_left _ mem',
        distinct.2.2 _ (List.mem_map_of_mem mem') _ (by simp)⟩
    simp only [checkMembers, bind_eq_error] at refused
    rcases refused with unnamed | ⟨field, named, refused⟩
    · obtain ⟨⟨reason, rfl⟩, none⟩ := snakeName_eq_error sound unnamed
      exact .invalidField mem kind here unnamed none
    split at refused
    · rename_i first taken
      cases refused
      obtain ⟨before, after, table, -⟩ := List.lookup_eq_some_iff.mp taken
      obtain ⟨m', mem', named'⟩ := tables.fields (field, first) (by simp [table])
      obtain ⟨inside, apart⟩ := earlier mem'
      exact .fieldCollision mem kind inside here apart named' named
    split at refused
    · exact ih next (tables.field named) refused
    rename_i outside
    have body : (m.location != .header) = true := by simpa using outside
    rcases bind_eq_error.mp refused with unwired | ⟨wire, wired, refused⟩
    · have part : (name, m) ∈ shape.parts := by simpa [Shape.parts, kind] using here
      obtain ⟨target, found⟩ := Service.exists_shape_of_part sound.references mem part
      obtain ⟨wire, wired⟩ := exists_wireName name found
      cases unwired.symm.trans wired
    split at refused
    · rename_i first taken
      cases refused
      obtain ⟨before, after, table, -⟩ := List.lookup_eq_some_iff.mp taken
      obtain ⟨m', mem', body', wired'⟩ := tables.wires (wire, first) (by simp [table])
      obtain ⟨inside, apart⟩ := earlier mem'
      exact .wireNameCollision mem kind (List.mem_filter.mpr ⟨inside, body'⟩)
        (List.mem_filter.mpr ⟨here, body⟩) apart wired' wired
    · exact ih next ((tables.field named).wire (by simp) body wired) refused

end Members

section Methods

/-- The method names of the client, each with what makes it; those of every client first. -/
def ownedMethods (ctx : Context) : List (Except Error String × Owner) :=
  ((clientMethods.map (·, Owner.client)).map fun p => (Except.ok p.1, p.2)).reverse ++
    ctx.service.operations.map fun o => (ctx.names.snakeName o.name, Owner.operation o)

theorem ownedMethods_apart (sound : ctx.Sound) : ctx.ownedMethods.Pairwise fun p q =>
    ∀ name, p.1 = .ok name → q.1 = .ok name → p.2 ≠ q.2 := by
  rw [ownedMethods, List.pairwise_append, List.pairwise_map]
  refine ⟨by simp [clientMethods], ?_, fun p own q called => ?_⟩
  · refine (List.pairwise_map.mp sound.operations_ascending).imp ?_
    rintro o other less name - - ⟨⟩
    exact String.lt_irrefl _ less
  · obtain ⟨o, -, rfl⟩ := List.mem_map.mp called
    obtain ⟨_, mem, rfl⟩ := List.mem_map.mp (List.mem_reverse.mp own)
    obtain ⟨_, -, rfl⟩ := List.mem_map.mp mem
    rintro name - - ⟨⟩

theorem makesMethod_of_mem {a : Owner} {name : String} (mem : (.ok name, a) ∈ ctx.ownedMethods) :
    ctx.MakesMethod a name := by
  rcases List.mem_append.mp mem with own | called
  · obtain ⟨_, listed, ⟨⟩⟩ := List.mem_map.mp (List.mem_reverse.mp own)
    obtain ⟨_, always, rfl⟩ := List.mem_map.mp listed
    exact .client always
  · obtain ⟨o, own, same⟩ := List.mem_map.mp called
    obtain ⟨named, rfl⟩ := Prod.mk.inj same
    exact .operation own named

theorem fault_of_checkMethods (sound : ctx.Sound)
    (refused : ctx.checkMethods = .error e) : ctx.Fault e := by
  have owned : ctx.checkMethods = claimNames .methodCollision
      ((clientMethods.map (·, Owner.client)).map fun p => (p.1, p.2.label))
      ((ctx.service.operations.map fun o => (ctx.names.snakeName o.name, Owner.operation o)).map
        fun p => (p.1, p.2.label)) := by
    simp [checkMethods, Function.comp_def, Owner.label]
  rw [owned] at refused
  rcases claimNames_eq_error refused with ⟨a, mem⟩ | ⟨a, b, name, rfl, twice⟩
  · obtain ⟨o, own, same⟩ := List.mem_map.mp mem
    obtain ⟨unnamed, rfl⟩ := Prod.mk.inj same
    obtain ⟨⟨reason, rfl⟩, none⟩ := snakeName_eq_error sound unnamed
    exact .invalidMethod own unnamed none
  · have apart := List.pairwise_iff_forall_sublist.mp (ownedMethods_apart sound) twice name rfl rfl
    have listed := twice.subset
    exact .methodCollision apart (makesMethod_of_mem (listed (by simp)))
      (makesMethod_of_mem (listed (by simp)))

end Methods

/-- A refused service has the fault that is reported. -/
theorem fault_of_validate (sound : ctx.Sound)
    (refused : ctx.validate = .error e) : ctx.Fault e := by
  rcases bind_eq_error.mp refused with shapes | ⟨-, -, refused⟩
  · obtain ⟨shape, mem, refused⟩ := exists_of_forM_eq_error shapes
    exact fault_of_checkShape sound.references mem refused
  rcases bind_eq_error.mp refused with recursion | ⟨-, -, refused⟩
  · obtain ⟨shape, path, rfl, cycle⟩ := isCycle_of_checkRecursion recursion
    exact .recursiveShape cycle
  rcases bind_eq_error.mp refused with typeNames | ⟨⟨⟩, types, refused⟩
  · exact fault_of_checkTypeNames sound typeNames
  rcases bind_eq_error.mp refused with members | ⟨⟨⟩, members, refused⟩
  · obtain ⟨shape, mem, refused⟩ := exists_of_forM_eq_error members
    split at refused
    · rename_i s kind
      exact fault_of_checkMembers sound mem kind (List.nil_append _).symm ⟨by simp, by simp⟩ refused
    · cases refused
  have resolved : ctx.Resolved := by
    refine ⟨(Names.new_eq_ok sound.names_new).1, sound.references, types, ?_⟩
    intro shape mem s kind
    have checked := forM_eq_ok.mp members shape mem
    rwa [kind] at checked
  rcases bind_eq_error.mp refused with codecs | ⟨-, -, methods⟩
  · rcases bind_eq_error.mp codecs with shapes | ⟨-, -, operations⟩
    · obtain ⟨shape, mem, refused⟩ := exists_of_forM_eq_error shapes
      obtain ⟨codec, part, m, plan, here, planned, rfl, calls⟩ :=
        resolved.callsMissing_of_checkShapeCodecs mem refused
      exact .shapeCodec mem here planned calls
    · obtain ⟨o, mem, refused⟩ := exists_of_forM_eq_error operations
      obtain ⟨codec, referenced, m, here, made, rfl, calls⟩ :=
        resolved.callsMissing_of_checkOperationCodecs mem refused
      exact .operationCodec mem here made calls
  · exact fault_of_checkMethods sound methods

end Context

/-- Validation refuses a loaded service only for a fault that the service has, and never for a shape
that is not defined. -/
theorem validation_reports_faults {text : String} {service : Service} {config : Config}
    {ctx : Context} {e : Error} (loaded : Service.load text = .ok service)
    (made : Context.new service config = .ok ctx) (refused : ctx.validate = .error e) :
    ctx.Fault e ∧ ∀ name, e ≠ .undefinedShape name := by
  have fault := Context.fault_of_validate (Context.Sound.ofLoad loaded made) refused
  refine ⟨fault, ?_⟩
  rintro name rfl
  cases fault

/-- A list of structures whose encoder is left out by the configuration. -/
theorem unencoded_element_reported : Service.load nodesText = .ok nodes ∧
    ∃ ctx, Context.new nodes { responseSuffixes := ["Node"] } = .ok ctx ∧
      ctx.validate = .error (.missingCodec "Kids.member" "Node" .encoder) ∧
      ctx.Fault (.missingCodec "Kids.member" "Node" .encoder) ∧
      ∀ name, Error.missingCodec "Kids.member" "Node" .encoder ≠ .undefinedShape name := by
  have ran : (Context.new nodes { responseSuffixes := ["Node"] } >>= fun ctx =>
      .ok (fault? ctx.validate)) = .ok (some (.missingCodec "Kids.member" "Node" .encoder)) :=
    eq_ok_of_toOption (by decide +kernel)
  obtain ⟨ctx, made, found⟩ := bind_eq_ok.mp ran
  have refused := fault?_eq_some.mp (Except.ok.inj found)
  exact ⟨load_nodesText, ctx, made, refused, validation_reports_faults load_nodesText made refused⟩

end ServiceClient.Generator
