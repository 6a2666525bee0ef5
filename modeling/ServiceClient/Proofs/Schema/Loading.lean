import ServiceClient.Proofs.Data.SortedMap
import ServiceClient.Proofs.Schema.References

/-! Loading accepts exactly the well-formed descriptions. What a description has to satisfy is said
of its entries as written, the last one where a name is repeated, and so is what the loaded service
holds. -/

namespace ServiceClient.Schema
open ServiceClient.Sequence ServiceClient.SortedMap

/-- The entry that counts where a name is repeated. -/
def lastOf? {α : Type} (entries : List (String × α)) (name : String) : Option α :=
  entries.reverse.lookup name

def typeWords : List String :=
  ["string", "timestamp", "integer", "long", "float", "double", "blob", "boolean", "structure",
    "list", "map"]

def locationWords : List String :=
  ["header", "uri", "querystring", "payload"]

def methodWords : List String :=
  ["GET", "POST", "PUT", "PATCH", "DELETE", "HEAD", "OPTIONS"]

/-- The member as loaded; one without a location travels in the body. -/
structure MemberEntry.Denotes (entry : MemberEntry) (m : Member) : Prop where
  shape : m.shape = entry.shape
  location : m.location.word = entry.location.getD "payload"
  locationName : m.locationName = entry.locationName
  documentation : m.documentation = entry.documentation

namespace ShapeEntry

/-- The references that the kind of the shape has a use for. -/
def usedParts (entry : ShapeEntry) : List (String × MemberEntry) :=
  if entry.type = "structure" then entry.members
  else if entry.type = "list" then (entry.member.map ("member", ·)).toList
  else if entry.type = "map" then
    (entry.key.map ("key", ·)).toList ++ (entry.value.map ("value", ·)).toList
  else []

structure WellFormed (entry : ShapeEntry) : Prop where
  type : entry.type ∈ typeWords
  list : entry.type = "list" → entry.member.isSome
  map : entry.type = "map" → entry.key.isSome ∧ entry.value.isSome
  locations : ∀ part ∈ entry.usedParts, ∀ word ∈ part.2.location, word ∈ locationWords
  distinct : entry.type = "structure" → (keys entry.members).Nodup
  required : entry.type = "structure" → ∀ name ∈ entry.required, name ∈ keys entry.members
  payload : entry.type = "structure" → ∀ name ∈ entry.payload, name ∈ keys entry.members

/-- Members in document order, and the required names as a set. -/
structure DenotesStruct (entry : ShapeEntry) (s : Structure) : Prop where
  members : List.Forall₂ (fun written member =>
    written.1 = member.1 ∧ written.2.Denotes member.2) entry.members s.members
  required : ∀ name, name ∈ s.required ↔ name ∈ entry.required
  required_ascending : s.required.Pairwise (· < ·)
  payload : s.payload = entry.payload

def DenotesKind (entry : ShapeEntry) : ShapeKind → Prop
  | .primitive kind => entry.type = kind.word
  | .struct s => entry.type = "structure" ∧ entry.DenotesStruct s
  | .list element => entry.type = "list" ∧ ∃ m ∈ entry.member, m.Denotes element
  | .map key value =>
    entry.type = "map" ∧ (∃ k ∈ entry.key, k.Denotes key) ∧ ∃ v ∈ entry.value, v.Denotes value

structure Denotes (entry : ShapeEntry) (shape : Shape) : Prop where
  kind : entry.DenotesKind shape.kind
  documentation : shape.documentation = entry.documentation

end ShapeEntry

structure OperationEntry.Denotes (entry : OperationEntry) (o : Operation) : Prop where
  method : o.method.word = entry.http.method.toUpper
  requestUri : o.requestUri = entry.http.requestUri
  input : o.input = entry.input
  output : o.output = entry.output
  documentation : o.documentation = entry.documentation

structure Document.WellFormed (d : Document) : Prop where
  shapes : ∀ name entry, lastOf? d.shapes name = some entry → entry.WellFormed
  methods : ∀ name entry, lastOf? d.operations name = some entry →
    entry.http.method.toUpper ∈ methodWords
  shapeReferences : ∀ name entry, lastOf? d.shapes name = some entry →
    ∀ part ∈ entry.usedParts, part.2.shape ∈ keys d.shapes
  operationReferences : ∀ name entry, lastOf? d.operations name = some entry →
    ∀ shape, entry.input = some shape ∨ entry.output = some shape → shape ∈ keys d.shapes

/-- The service holds one shape and one operation for each name of the description, and nothing
else. -/
structure Service.Holds (s : Service) (d : Document) : Prop where
  metadata : s.metadata = d.metadata
  shapeNames : ∀ name, name ∈ s.shapes.map (·.name) ↔ name ∈ keys d.shapes
  shapes_ascending : (s.shapes.map (·.name)).Pairwise (· < ·)
  shapes : ∀ shape ∈ s.shapes, ∃ entry,
    lastOf? d.shapes shape.name = some entry ∧ entry.Denotes shape
  operationNames : ∀ name, name ∈ s.operations.map (·.name) ↔ name ∈ keys d.operations
  operations_ascending : (s.operations.map (·.name)).Pairwise (· < ·)
  operations : ∀ o ∈ s.operations, ∃ entry,
    lastOf? d.operations o.name = some entry ∧ entry.Denotes o

section Words
variable {κ : Type} {word : κ → String} {all : List κ}

theorem find?_word_eq_some (own : ∀ k, all.find? (word · == word k) = some k) {w : String} {k : κ} :
    all.find? (word · == w) = some k ↔ word k = w := by
  constructor
  · intro found
    simpa using List.find?_some found
  · rintro rfl
    exact own k

theorem mem_map_word (own : ∀ k, all.find? (word · == word k) = some k) {w : String} :
    w ∈ all.map word ↔ ∃ k, word k = w := by
  constructor
  · intro mem
    obtain ⟨k, -, same⟩ := List.mem_map.mp mem
    exact ⟨k, same⟩
  · rintro ⟨k, rfl⟩
    exact List.mem_map_of_mem (List.mem_of_find?_eq_some (own k))

theorem mem_locationWords {w : String} :
    w ∈ locationWords ↔ ∃ location : Location, location.word = w :=
  mem_map_word Location.ofWord?_word

theorem mem_methodWords {w : String} :
    w ∈ methodWords ↔ ∃ method : HttpMethod, method.word = w :=
  mem_map_word HttpMethod.ofWord?_word

theorem mem_typeWords {w : String} : w ∈ typeWords ↔
    w = "structure" ∨ w = "list" ∨ w = "map" ∨ ∃ kind : PrimitiveKind, kind.word = w := by
  have parts :
      typeWords = PrimitiveKind.all.map PrimitiveKind.word ++ ["structure", "list", "map"] := rfl
  rw [parts, List.mem_append, mem_map_word PrimitiveKind.ofWord?_word]
  simp only [List.mem_cons, List.not_mem_nil, or_false]
  tauto

theorem PrimitiveKind.word_ne (kind : PrimitiveKind) :
    kind.word ≠ "structure" ∧ kind.word ≠ "list" ∧ kind.word ≠ "map" := by
  cases kind <;> decide

end Words

namespace MemberEntry
variable {entry : MemberEntry} {shape part : String}

theorem denotes_of_toMember {m : Member} (made : entry.toMember shape part = .ok m) :
    entry.Denotes m := by
  unfold toMember at made
  split at made
  · rename_i absent
    cases made
    exact ⟨rfl, by rw [absent]; rfl, rfl, rfl⟩
  · rename_i word given
    split at made
    · rename_i location read
      cases made
      have same := (find?_word_eq_some Location.ofWord?_word).mp read
      exact ⟨rfl, by rw [given, ← same]; rfl, rfl, rfl⟩
    · cases made

theorem exists_toMember (shape part : String) : (∃ m, entry.toMember shape part = .ok m) ↔
    ∀ word ∈ entry.location, word ∈ locationWords := by
  unfold toMember
  cases given : entry.location with
  | none => simp
  | some word =>
    simp only [Option.mem_def, Option.some.injEq, forall_eq', mem_locationWords]
    constructor
    · rintro ⟨m, made⟩
      split at made
      · rename_i location read
        exact ⟨location, (find?_word_eq_some Location.ofWord?_word).mp read⟩
      · cases made
    · rintro ⟨location, rfl⟩
      exact ⟨_, by rw [Location.ofWord?_word]⟩

end MemberEntry

namespace ShapeEntry
variable {name : String}

theorem toMembers_eq_ok {earlier : List String} {entries : List (String × MemberEntry)}
    {members : List (String × Member)} :
    toMembers name earlier entries = .ok members ↔
      List.Forall₂ (fun written member =>
        written.1 = member.1 ∧ written.2.toMember name written.1 = .ok member.2) entries members ∧
      (keys entries).Nodup ∧ ∀ member ∈ keys entries, member ∉ earlier := by
  induction entries generalizing earlier members with
  | nil =>
    rw [toMembers]
    cases members <;> simp
  | cons e entries ih =>
    obtain ⟨member, entry⟩ := e
    rw [toMembers]
    by_cases repeated : earlier.contains member
    · have old : member ∈ earlier := by simpa using repeated
      simp [old, bind, Except.bind]
    · have fresh : member ∉ earlier := by simpa using repeated
      simp only [repeated, Bool.false_eq_true, if_false, bind_eq_ok, ih]
      rw [keys_cons, List.nodup_cons, List.forall_mem_cons]
      simp only [List.mem_cons, not_or]
      constructor
      · rintro ⟨m, made, members, ⟨rest, distinct, apart⟩, ⟨⟩⟩
        exact ⟨.cons ⟨rfl, made⟩ rest, ⟨fun mem => (apart member mem).1 rfl, distinct⟩, fresh,
          fun q mem => (apart q mem).2⟩
      · rintro ⟨_ | ⟨⟨rfl, made⟩, rest⟩, ⟨own, distinct⟩, -, apart⟩
        rename_i m members
        refine ⟨m.2, made, members, ⟨rest, distinct, fun q mem => ⟨?_, apart q mem⟩⟩, rfl⟩
        rintro rfl
        exact own mem

variable {entry : ShapeEntry}

theorem toStructure_eq_ok {s : Structure} : entry.toStructure name = .ok s ↔
    ∃ members, toMembers name [] entry.members = .ok members ∧
      (∀ member ∈ entry.required, member ∈ keys members) ∧
      (∀ member ∈ entry.payload, member ∈ keys members) ∧
      s = { members, required := nameSet entry.required, payload := entry.payload } := by
  have known : ∀ (members : List (String × Member)) (member : String),
      (members.lookup member).isSome ↔ member ∈ keys members := by
    intro members member
    rw [Option.isSome_iff_ne_none, Ne, List.lookup_eq_none_iff]
    simp [keys]
  simp only [toStructure, bind_eq_ok]
  refine exists_congr fun members => and_congr_right fun _ => ?_
  split
  · rename_i member found
    have needed := List.mem_of_find?_eq_some found
    have absent := List.find?_some found
    simp only [Bool.not_eq_true', Bool.eq_false_iff, ne_eq, known] at absent
    simp only [reduceCtorEq, false_iff, not_and]
    exact fun all => absurd (all member (mem_nameSet.mp needed)) absent
  · rename_i all
    rw [List.find?_eq_none] at all
    simp only [Bool.not_eq_true', Bool.not_eq_false, known, mem_nameSet] at all
    split
    · rename_i member found
      obtain ⟨given, absent⟩ := Option.filter_eq_some_iff.mp found
      simp only [Bool.not_eq_true', Bool.eq_false_iff, ne_eq, known] at absent
      simp only [reduceCtorEq, false_iff, not_and]
      exact fun _ all => absurd (all member given) absent
    · rename_i carried
      rw [Option.filter_eq_none_iff] at carried
      simp only [Bool.not_eq_true', Bool.not_eq_false, known] at carried
      simp only [Except.ok.injEq, eq_comm (b := s)]
      exact ⟨fun same => ⟨all, carried, same⟩, fun h => h.2.2⟩

theorem denotes_of_toStructure {s : Structure} (made : entry.toStructure name = .ok s) :
    entry.DenotesStruct s := by
  obtain ⟨members, read, -, -, rfl⟩ := toStructure_eq_ok.mp made
  refine ⟨?_, fun _ => mem_nameSet, nameSet_ascending _, rfl⟩
  exact (toMembers_eq_ok.mp read).1.imp fun _ _ h => ⟨h.1, MemberEntry.denotes_of_toMember h.2⟩

theorem exists_toStructure : (∃ s, entry.toStructure name = .ok s) ↔
    (∀ part ∈ entry.members, ∀ word ∈ part.2.location, word ∈ locationWords) ∧
      (keys entry.members).Nodup ∧ (∀ member ∈ entry.required, member ∈ keys entry.members) ∧
      ∀ member ∈ entry.payload, member ∈ keys entry.members := by
  have known : (∃ members, List.Forall₂ (fun (written : String × MemberEntry) (member : _ × _) =>
      written.1 = member.1 ∧ written.2.toMember name written.1 = .ok member.2)
        entry.members members) ↔
      ∀ part ∈ entry.members, ∀ word ∈ part.2.location, word ∈ locationWords := by
    rw [exists_forall₂]
    refine forall₂_congr fun part _ => ?_
    rw [← MemberEntry.exists_toMember name part.1]
    exact ⟨fun ⟨member, _, made⟩ => ⟨member.2, made⟩, fun ⟨m, made⟩ => ⟨(part.1, m), rfl, made⟩⟩
  rw [← known]
  simp only [toStructure_eq_ok, toMembers_eq_ok]
  constructor
  · rintro ⟨s, members, ⟨pairs, distinct, -⟩, required, payload, -⟩
    have same : keys members = keys entry.members := map_eq_map (pairs.imp fun _ _ h => h.1)
    rw [same] at required payload
    exact ⟨⟨members, pairs⟩, distinct, required, payload⟩
  · rintro ⟨⟨members, pairs⟩, distinct, required, payload⟩
    have same : keys members = keys entry.members := map_eq_map (pairs.imp fun _ _ h => h.1)
    rw [← same] at required payload
    exact ⟨_, members, ⟨pairs, distinct, by simp⟩, required, payload, rfl⟩

theorem needPart_eq_ok {kind part : String} {given : Option MemberEntry} {e : MemberEntry} :
    needPart name kind part given = .ok e ↔ given = some e := by
  cases given <;> simp [needPart]

theorem toKind_eq_ok {kind : ShapeKind} : entry.toKind name = .ok kind ↔
    match kind with
    | .primitive kind => entry.type = kind.word
    | .struct s => entry.type = "structure" ∧ entry.toStructure name = .ok s
    | .list element =>
      entry.type = "list" ∧ ∃ m ∈ entry.member, m.toMember name "member" = .ok element
    | .map key value =>
      entry.type = "map" ∧ (∃ k ∈ entry.key, k.toMember name "key" = .ok key) ∧
        ∃ v ∈ entry.value, v.toMember name "value" = .ok value := by
  have primitive := fun kind : PrimitiveKind => kind.word_ne
  unfold toKind
  split
  · rename_i type
    cases kind <;> simp [type, Functor.map, map_eq_ok, (primitive _).1.symm]
  · split
    · rename_i type
      cases kind <;> simp [type, Functor.map, map_eq_ok, bind_eq_ok, needPart_eq_ok,
        (primitive _).2.1.symm]
    · split
      · rename_i type
        cases kind <;> simp [type, bind_eq_ok, needPart_eq_ok, (primitive _).2.2.symm]
        exact ⟨fun ⟨k, hasKey, v, hasValue, keyRead, valueRead⟩ =>
            ⟨⟨k, hasKey, keyRead⟩, v, hasValue, valueRead⟩,
          fun ⟨⟨k, hasKey, keyRead⟩, v, hasValue, valueRead⟩ =>
            ⟨k, hasKey, v, hasValue, keyRead, valueRead⟩⟩
      · rename_i struct list map
        have named : ∀ kind : PrimitiveKind,
            entry.type = kind.word ↔ PrimitiveKind.ofWord? entry.type = some kind := fun kind =>
          eq_comm.trans (find?_word_eq_some PrimitiveKind.ofWord?_word).symm
        cases read : PrimitiveKind.ofWord? entry.type <;>
          cases kind <;> simp [struct, list, map, named, read]

theorem denotesKind_of_toKind {kind : ShapeKind} (made : entry.toKind name = .ok kind) :
    entry.DenotesKind kind := by
  have parts := toKind_eq_ok.mp made
  cases kind with
  | primitive kind => exact parts
  | struct s => exact ⟨parts.1, denotes_of_toStructure parts.2⟩
  | list element =>
    obtain ⟨type, m, given, read⟩ := parts
    exact ⟨type, m, given, MemberEntry.denotes_of_toMember read⟩
  | map key value =>
    obtain ⟨type, ⟨k, hasKey, keyRead⟩, v, hasValue, valueRead⟩ := parts
    exact ⟨type, ⟨k, hasKey, MemberEntry.denotes_of_toMember keyRead⟩, v, hasValue,
      MemberEntry.denotes_of_toMember valueRead⟩

theorem exists_toKind (name : String) :
    (∃ kind, entry.toKind name = .ok kind) ↔ entry.WellFormed := by
  simp only [toKind_eq_ok]
  constructor
  · rintro ⟨kind | s | element | ⟨key, value⟩, parts⟩
    · have others := kind.word_ne
      rw [← parts] at others
      exact ⟨mem_typeWords.mpr (.inr (.inr (.inr ⟨kind, parts.symm⟩))), by simp [others],
        by simp [others], by simp [usedParts, others], by simp [others], by simp [others],
        by simp [others]⟩
    · obtain ⟨type, made⟩ := parts
      obtain ⟨locations, distinct, required, payload⟩ := exists_toStructure.mp ⟨s, made⟩
      exact ⟨mem_typeWords.mpr (.inl type), by simp [type], by simp [type],
        by rwa [usedParts, if_pos type], fun _ => distinct, fun _ => required, fun _ => payload⟩
    · obtain ⟨type, m, given, read⟩ := parts
      rw [Option.mem_def] at given
      have located := (MemberEntry.exists_toMember ..).mp ⟨element, read⟩
      exact ⟨mem_typeWords.mpr (.inr (.inl type)), by simp [given], by simp [type],
        by simpa [usedParts, type, given] using located, by simp [type], by simp [type],
        by simp [type]⟩
    · obtain ⟨type, ⟨k, hasKey, keyRead⟩, v, hasValue, valueRead⟩ := parts
      rw [Option.mem_def] at hasKey hasValue
      have keyLocated := (MemberEntry.exists_toMember ..).mp ⟨key, keyRead⟩
      have valueLocated := (MemberEntry.exists_toMember ..).mp ⟨value, valueRead⟩
      exact ⟨mem_typeWords.mpr (.inr (.inr (.inl type))), by simp [type],
        by simp [hasKey, hasValue],
        by simpa [usedParts, type, hasKey, hasValue] using ⟨keyLocated, valueLocated⟩,
        by simp [type], by simp [type], by simp [type]⟩
  · rintro ⟨word, list, map, locations, distinct, required, payload⟩
    rcases mem_typeWords.mp word with type | type | type | ⟨kind, type⟩
    · rw [usedParts, if_pos type] at locations
      obtain ⟨s, made⟩ := exists_toStructure.mpr
        ⟨locations, distinct type, required type, payload type⟩
      exact ⟨.struct s, type, made⟩
    · obtain ⟨m, given⟩ := Option.isSome_iff_exists.mp (list type)
      have located : ∀ word ∈ m.location, word ∈ locationWords := by
        simpa [usedParts, type, given] using locations
      obtain ⟨element, read⟩ := (MemberEntry.exists_toMember ..).mpr located
      exact ⟨.list element, type, m, given, read⟩
    · obtain ⟨hasKey, hasValue⟩ := map type
      obtain ⟨k, hasKey⟩ := Option.isSome_iff_exists.mp hasKey
      obtain ⟨v, hasValue⟩ := Option.isSome_iff_exists.mp hasValue
      have located : (∀ word ∈ k.location, word ∈ locationWords) ∧
          ∀ word ∈ v.location, word ∈ locationWords := by
        simpa [usedParts, type, hasKey, hasValue] using locations
      obtain ⟨key, keyRead⟩ := (MemberEntry.exists_toMember ..).mpr located.1
      obtain ⟨value, valueRead⟩ := (MemberEntry.exists_toMember ..).mpr located.2
      exact ⟨.map key value, type, ⟨k, hasKey, keyRead⟩, v, hasValue, valueRead⟩
    · exact ⟨.primitive kind, type.symm⟩

/-- A shape as loaded has the parts of its entry that its kind has a use for. -/
theorem DenotesKind.parts {shape : Shape} (denotes : entry.DenotesKind shape.kind) :
    shape.parts.map (fun part => (part.1, part.2.shape)) =
      entry.usedParts.map fun part => (part.1, part.2.shape) := by
  cases kind : shape.kind with
  | primitive k =>
    rw [kind] at denotes
    have others := k.word_ne
    rw [← show entry.type = k.word from denotes] at others
    simp [Shape.parts, kind, usedParts, others]
  | struct s =>
    rw [kind] at denotes
    obtain ⟨type, members, -⟩ := denotes
    rw [Shape.parts, kind, usedParts, if_pos type]
    exact map_eq_map (members.imp fun _ _ h => by rw [h.1, h.2.shape])
  | list element =>
    rw [kind] at denotes
    obtain ⟨type, m, given, denoted⟩ := denotes
    simp [Shape.parts, kind, usedParts, type, Option.mem_def.mp given, denoted.shape]
  | map key value =>
    rw [kind] at denotes
    obtain ⟨type, ⟨k, hasKey, keyDenoted⟩, v, hasValue, valueDenoted⟩ := denotes
    simp [Shape.parts, kind, usedParts, type, Option.mem_def.mp hasKey,
      Option.mem_def.mp hasValue, keyDenoted.shape, valueDenoted.shape]

theorem DenotesKind.references {shape : Shape} (denotes : entry.DenotesKind shape.kind) :
    shape.references = entry.usedParts.map (·.2.shape) := by
  have shapes := congrArg (List.map Prod.snd) denotes.parts
  rwa [List.map_map, List.map_map] at shapes

theorem toShape_eq_ok {shape : Shape} : entry.toShape name = .ok shape ↔
    ∃ kind, entry.toKind name = .ok kind ∧
      shape = { name, kind, documentation := entry.documentation } := by
  simp only [toShape, bind_eq_ok, Except.ok.injEq, eq_comm (b := shape)]

theorem denotes_of_toShape {shape : Shape} (made : entry.toShape name = .ok shape) :
    shape.name = name ∧ entry.Denotes shape := by
  obtain ⟨kind, read, rfl⟩ := toShape_eq_ok.mp made
  exact ⟨rfl, denotesKind_of_toKind read, rfl⟩

theorem exists_toShape : (∃ shape, entry.toShape name = .ok shape) ↔ entry.WellFormed := by
  rw [← exists_toKind name]
  simp only [toShape_eq_ok]
  exact ⟨fun ⟨_, kind, read, _⟩ => ⟨kind, read⟩, fun ⟨kind, read⟩ => ⟨_, kind, read, rfl⟩⟩

end ShapeEntry

namespace OperationEntry
variable {entry : OperationEntry} {name : String}

theorem toOperation_eq_ok {o : Operation} :
    entry.toOperation name = .ok o ↔ o.name = name ∧ entry.Denotes o := by
  have named : ∀ method : HttpMethod, HttpMethod.ofWord? entry.http.method.toUpper = some method ↔
      method.word = entry.http.method.toUpper := fun method =>
    find?_word_eq_some HttpMethod.ofWord?_word
  unfold toOperation
  constructor
  · intro made
    split at made
    · rename_i method read
      cases made
      exact ⟨rfl, (named method).mp read, rfl, rfl, rfl, rfl⟩
    · cases made
  · rintro ⟨rfl, method, requestUri, input, output, documentation⟩
    rw [(named o.method).mpr method, ← requestUri, ← input, ← output, ← documentation]

theorem exists_toOperation : (∃ o, entry.toOperation name = .ok o) ↔
    entry.http.method.toUpper ∈ methodWords := by
  rw [mem_methodWords]
  constructor
  · rintro ⟨o, made⟩
    exact ⟨o.method, (toOperation_eq_ok.mp made).2.method⟩
  · rintro ⟨method, same⟩
    exact ⟨⟨name, method, entry.http.requestUri, entry.input, entry.output, entry.documentation⟩,
      toOperation_eq_ok.mpr ⟨rfl, same, rfl, rfl, rfl, rfl⟩⟩

end OperationEntry

section Tables
variable {α β : Type} {label : β → String} {Denotes : α → β → Prop} {entries : List (String × α)}
  {made : List β}

theorem mem_ofLast_names {name : String} {e : α} :
    (name, e) ∈ ofLast nameLt entries ↔ lastOf? entries name = some e :=
  mem_ofLast strict_nameLt (sortable_nameLt entries)

/-- What is made of the entries of a table, each under its own name. -/
theorem table_made (make : α → String → Except LoadError β)
    (denotes : ∀ {name e b}, make e name = .ok b → label b = name ∧ Denotes e b)
    (all : List.Forall₂ (fun e b => make e.2 e.1 = .ok b) (ofLast nameLt entries) made) :
    (∀ name, name ∈ made.map label ↔ name ∈ keys entries) ∧ (made.map label).Pairwise (· < ·) ∧
      ∀ b ∈ made, ∃ e, lastOf? entries (label b) = some e ∧ Denotes e b := by
  have names : made.map label = keys (ofLast nameLt entries) :=
    map_eq_map (all.imp fun _ _ h => (denotes h).1.symm)
  have sortable := sortable_nameLt entries
  refine ⟨fun name => ?_, ?_, fun b mem => ?_⟩
  · rw [names, mem_keys_ofLast sortable]
  · have ascending := ascending_ofLast strict_nameLt sortable
    rw [names]
    exact ascending.imp fun less => by simpa [nameLt] using less
  · obtain ⟨e, here, made⟩ := exists_mem_left all mem
    obtain ⟨named, denoted⟩ := denotes made
    exact ⟨e.2, named ▸ mem_ofLast_names.mp here, denoted⟩

end Tables

namespace Service
variable {s : Service}

theorem defines_iff {name : String} : s.defines name ↔ name ∈ s.shapes.map (·.name) := by
  rw [defines, shape?, List.find?_isSome, List.mem_map]
  simp

theorem checkReferences_eq_ok : s.checkReferences = .ok () ↔
    (∀ shape ∈ s.shapes, ∀ name ∈ shape.references, name ∈ s.shapes.map (·.name)) ∧
      ∀ o ∈ s.operations, ∀ name, o.input = some name ∨ o.output = some name →
        name ∈ s.shapes.map (·.name) := by
  have checked : s.checkReferences = .ok () ↔ ∀ r ∈ s.references, s.defines r.2 := by
    rw [checkReferences]
    split
    · rename_i owner name found
      have absent := List.find?_some found
      simp only [reduceCtorEq, false_iff]
      intro all
      simp [all _ (List.mem_of_find?_eq_some found)] at absent
    · rename_i none
      simpa using none
  rw [checked, references]
  simp only [List.forall_mem_append, List.forall_mem_flatMap, List.forall_mem_map, defines_iff,
    Shape.references, Operation.parts]
  refine and_congr_right fun _ => forall₂_congr fun o _ => ?_
  cases o.input <;> cases o.output <;> simp [or_imp, forall_and]

theorem ofDocument_eq_ok {d : Document} : ofDocument d = .ok s ↔
    s.metadata = d.metadata ∧
      List.Forall₂ (fun e shape => e.2.toShape e.1 = .ok shape) (ofLast nameLt d.shapes) s.shapes ∧
      List.Forall₂ (fun e o => e.2.toOperation e.1 = .ok o) (ofLast nameLt d.operations)
        s.operations ∧
      s.checkReferences = .ok () := by
  simp only [ofDocument, bind_eq_ok, mapM_eq_ok]
  constructor
  · rintro ⟨shapes, shaped, operations, named, ⟨⟩, checked, made⟩
    cases made
    exact ⟨rfl, shaped, named, checked⟩
  · rintro ⟨metadata, shaped, named, checked⟩
    refine ⟨s.shapes, shaped, s.operations, named, ?_⟩
    rw [← metadata]
    exact ⟨(), checked, rfl⟩

theorem holds_of_ofDocument {d : Document} (loaded : ofDocument d = .ok s) : s.Holds d := by
  obtain ⟨metadata, shaped, named, -⟩ := ofDocument_eq_ok.mp loaded
  obtain ⟨shapeNames, shapeOrder, shapes⟩ :=
    table_made ShapeEntry.toShape ShapeEntry.denotes_of_toShape shaped
  obtain ⟨operationNames, operationOrder, operations⟩ :=
    table_made OperationEntry.toOperation OperationEntry.toOperation_eq_ok.mp named
  exact ⟨metadata, shapeNames, shapeOrder, shapes, operationNames, operationOrder, operations⟩

theorem wellFormed_of_ofDocument {d : Document} (loaded : ofDocument d = .ok s) :
    d.WellFormed := by
  have holds := holds_of_ofDocument loaded
  obtain ⟨-, shaped, named, checked⟩ := ofDocument_eq_ok.mp loaded
  obtain ⟨ofShapes, ofOperations⟩ := checkReferences_eq_ok.mp checked
  refine ⟨fun name entry last => ?_, fun name entry last => ?_, fun name entry last part used => ?_,
    fun name entry last shape refers => ?_⟩
  · have made := exists_forall₂.mp ⟨_, shaped⟩ (name, entry) (mem_ofLast_names.mpr last)
    exact ShapeEntry.exists_toShape.mp made
  · have made := exists_forall₂.mp ⟨_, named⟩ (name, entry) (mem_ofLast_names.mpr last)
    exact OperationEntry.exists_toOperation.mp made
  · obtain ⟨shape, here, made⟩ := exists_mem_left shaped.flip (mem_ofLast_names.mpr last)
    have denoted := (ShapeEntry.denotes_of_toShape made).2
    rw [← holds.shapeNames]
    refine ofShapes shape here _ ?_
    rw [denoted.kind.references]
    exact List.mem_map_of_mem used
  · obtain ⟨o, here, made⟩ := exists_mem_left named.flip (mem_ofLast_names.mpr last)
    have denoted := (OperationEntry.toOperation_eq_ok.mp made).2
    rw [← holds.shapeNames]
    exact ofOperations o here shape (by rwa [denoted.input, denoted.output])

theorem exists_ofDocument {d : Document} : (∃ s, ofDocument d = .ok s) ↔ d.WellFormed := by
  refine ⟨fun ⟨s, loaded⟩ => wellFormed_of_ofDocument loaded, fun formed => ?_⟩
  obtain ⟨shapes, shaped⟩ : ∃ shapes, List.Forall₂ (fun e shape => e.2.toShape e.1 = .ok shape)
      (ofLast nameLt d.shapes) shapes :=
    exists_forall₂.mpr fun e mem =>
      ShapeEntry.exists_toShape.mpr (formed.shapes _ _ (mem_ofLast_names.mp mem))
  obtain ⟨operations, named⟩ : ∃ operations,
      List.Forall₂ (fun e o => e.2.toOperation e.1 = .ok o) (ofLast nameLt d.operations)
        operations :=
    exists_forall₂.mpr fun e mem =>
      OperationEntry.exists_toOperation.mpr (formed.methods _ _ (mem_ofLast_names.mp mem))
  obtain ⟨shapeNames, -, ofShapes⟩ :=
    table_made ShapeEntry.toShape ShapeEntry.denotes_of_toShape shaped
  obtain ⟨-, -, ofOperations⟩ :=
    table_made OperationEntry.toOperation OperationEntry.toOperation_eq_ok.mp named
  refine ⟨⟨d.metadata, operations, shapes⟩, ofDocument_eq_ok.mpr ⟨rfl, shaped, named,
    checkReferences_eq_ok.mpr ⟨fun shape mem name refers => ?_, fun o mem name refers => ?_⟩⟩⟩
  · obtain ⟨entry, last, denoted⟩ := ofShapes shape mem
    rw [denoted.kind.references] at refers
    obtain ⟨part, used, rfl⟩ := List.mem_map.mp refers
    exact (shapeNames _).mpr (formed.shapeReferences _ _ last part used)
  · obtain ⟨entry, last, denoted⟩ := ofOperations o mem
    rw [denoted.input, denoted.output] at refers
    exact (shapeNames _).mpr (formed.operationReferences _ _ last name refers)

theorem load_eq {text : String} {d : Document} (reads : Document.parse text = .ok d) :
    load text = ofDocument d := by
  simp only [load, reads, Except.mapError, bind, Except.bind]

theorem shapes_ascending_of_load {text : String} (loaded : load text = .ok s) :
    (s.shapes.map (·.name)).Pairwise (· < ·) := by
  obtain ⟨d, -, made⟩ := bind_eq_ok.mp loaded
  exact (holds_of_ofDocument made).shapes_ascending

theorem operations_ascending_of_load {text : String} (loaded : load text = .ok s) :
    (s.operations.map (·.name)).Pairwise (· < ·) := by
  obtain ⟨d, -, made⟩ := bind_eq_ok.mp loaded
  exact (holds_of_ofDocument made).operations_ascending

/-- No structure of a loaded service has two members of one name. -/
theorem memberNames_nodup_of_load {text : String} (loaded : load text = .ok s) {shape : Shape}
    (mem : shape ∈ s.shapes) {o : Structure} (kind : shape.kind = .struct o) :
    (o.members.map (·.1)).Nodup := by
  obtain ⟨d, -, made⟩ := bind_eq_ok.mp loaded
  obtain ⟨entry, last, denoted⟩ := (holds_of_ofDocument made).shapes shape mem
  obtain ⟨type, struct⟩ : entry.type = "structure" ∧ entry.DenotesStruct o := by
    have denotes := denoted.kind
    rwa [kind] at denotes
  have names : o.members.map (·.1) = keys entry.members :=
    map_eq_map (struct.members.imp fun _ _ same => same.1)
  rw [names]
  exact ((wellFormed_of_ofDocument made).shapes _ _ last).distinct type

/-- A text that reads as a description is loaded exactly if the description is well-formed, and the
loaded service holds what the description says. -/
theorem loads_exactly_the_well_formed {text : String} {d : Document}
    (reads : Document.parse text = .ok d) :
    ((∃ s, load text = .ok s) ↔ d.WellFormed) ∧ ∀ s, load text = .ok s → s.Holds d := by
  rw [load_eq reads]
  exact ⟨exists_ofDocument, fun s loaded => holds_of_ofDocument loaded⟩

/-- A description that names one shape twice, one member of it twice as required, and writes a
method in lower case. -/
def itemText : String :=
  "\x7b\"metadata\":[\"items\"],\"operations\":\x7b\"Get\":[[\"get\"],null,[\"Item\"]]\x7d,
    \"shapes\":\x7b\"Item\":[\"union\"],\"Text\":[\"string\"],
    \"Item\":[\"structure\",\x7b\"Name\":[\"Text\"]\x7d,[\"Name\",\"Name\"]]\x7d\x7d"

def items : Service where
  metadata := { endpointPrefix := "items" }
  operations :=
    [ { name := "Get", method := .get, requestUri := "/", input := none, output := some "Item",
        documentation := none } ]
  shapes :=
    [ { name := "Item", kind := .struct
          { members := [("Name", { shape := "Text" })], required := ["Name"], payload := none } },
      { name := "Text", kind := .primitive .string } ]

set_option maxRecDepth 4000 in
theorem load_itemText : load itemText = .ok items :=
  load_ofList (by decide +kernel)

theorem itemText_loads_exactly : ∃ d, Document.parse itemText = .ok d ∧ d.WellFormed ∧
    load itemText = .ok items ∧ items.Holds d := by
  cases parsed : Document.parse itemText with
  | error e =>
    have loaded := load_itemText
    rw [load, parsed] at loaded
    cases loaded
  | ok d =>
    obtain ⟨accepts, holds⟩ := loads_exactly_the_well_formed parsed
    exact ⟨d, rfl, accepts.mp ⟨items, load_itemText⟩, load_itemText, holds items load_itemText⟩

end Service
end ServiceClient.Schema
