import ServiceClient.Proofs.Codec.ReadRendered
import ServiceClient.Proofs.Data.SortedMap
import ServiceClient.Proofs.Markup.Rendered
import ServiceClient.Proofs.Wire.Request

/-! Structures carried through parameters and XML. A member is carried when the parameters that its
encoder writes describe elements that its decoder reads back into its slot; a structure of carried
members is encoded, rendered, scanned and decoded to its fields. -/

namespace ServiceClient.Codec
open ServiceClient.Markup ServiceClient.Schema ServiceClient.Wire Reading

/-- Elements of one name, numbered from `n` on. -/
def numbered (tag : String) : (n : Nat) → List Node → List (Key × Node)
  | _, [] => []
  | n, part :: parts => ((tag, n), part) :: numbered tag (n + 1) parts

theorem childEvents_numbered (tag : String) (n : Nat) (parts : List Node) :
    Node.childEvents (numbered tag n parts) = parts.flatMap (element tag) := by
  induction parts generalizing n with
  | nil => rfl
  | cons part parts ih => simp [numbered, Node.childEvents, element, ih]

theorem mem_numbered {tag : String} {n : Nat} {parts : List Node} {child : Key × Node}
    (mem : child ∈ numbered tag n parts) :
    child.1.1 = tag ∧ n ≤ child.1.2 ∧ child.2 ∈ parts := by
  induction parts generalizing n with
  | nil => cases mem
  | cons part parts ih =>
    rcases List.mem_cons.mp mem with rfl | mem
    · exact ⟨rfl, Nat.le_refl n, List.mem_cons_self⟩
    · obtain ⟨named, above, here⟩ := ih mem
      exact ⟨named, Nat.le_of_succ_le above, List.mem_cons_of_mem _ here⟩

theorem numbered_nodup (tag : String) (n : Nat) (parts : List Node) :
    ((numbered tag n parts).map (·.1)).Nodup := by
  induction parts generalizing n with
  | nil => exact List.nodup_nil
  | cons part parts ih =>
    refine List.nodup_cons.mpr ⟨fun mem => ?_, ih (n + 1)⟩
    obtain ⟨child, here, same⟩ := List.mem_map.mp mem
    have above := (mem_numbered here).2.1
    rw [same] at above
    exact absurd above (Nat.not_succ_le_self n)

/-- What writes a member that is read by name. -/
def FieldRead.write (f : FieldRead) : FieldWrite :=
  ⟨f.field, f.required, .nested f.type f.wire⟩

/-- The elements of a member; those of a collection are numbered from one. -/
def FieldParts.children (p : FieldParts) : List (Key × Node) :=
  numbered p.field.wire (if p.field.collection.isSome then 1 else 0) p.parts

/-- The writes of a table. -/
def paramWrites (t : Table) : List Write :=
  t.map fun entry => .param entry.1 entry.2

/-- The table with the paths that its names lead through. -/
def tableEntries (t : Table) : List (List Key × String) :=
  t.map fun entry => (elementPath entry.1, entry.2)

/-- The parameters of a member describe parts that are read back into its slot. -/
structure Carried (m : Module) (headers : Headers) (depth : Nat) (value : Option Value)
    (p : FieldParts) : Prop where
  written : ∃ t, m.memberWrites "" p.field.write value = some (paramWrites t) ∧
    tableEntries t = Node.childEntries p.children
  fits : p.Fits (m.readXml headers depth)
  canonical : ∀ n ∈ p.parts, n.Canonical
  named : isTag p.field.wire

/-- Both codecs of the type handle scalars of that kind. -/
structure Module.Scalars (m : Module) (type : String) (kind : PrimitiveKind) : Prop where
  encodes : m.encoderBody? type = some .scalar
  decodes : m.decoderBody? type = some (.scalar kind)

section Members
variable {m : Module} {headers : Headers} {depth : Nat} {f : FieldRead}

theorem memberWrites_write (v : Value) :
    m.memberWrites "" f.write (some v) = m.writes f.type f.wire v := by
  simp [Module.memberWrites, FieldRead.write, joinPath]

theorem carried_none (source : f.source = .body none) (optional : f.required = false)
    (named : isTag f.wire) : Carried m headers depth none ⟨f, [], none⟩ where
  written := ⟨[], by simp [Module.memberWrites, FieldRead.write, optional, paramWrites], rfl⟩
  fits := ⟨source, fun _ => rfl, fun some => absurd rfl some⟩
  canonical := by simp
  named := named

/-- The part that holds a scalar. -/
def leaf (v : Scalar) : Node :=
  .mk (some v.toText) []

theorem carried_scalar (source : f.source = .body none) (single : f.collection = none)
    (named : isTag f.wire) {kind : PrimitiveKind} (codecs : m.Scalars f.type kind) {v : Scalar}
    (read : Scalar.ofText kind f.wire v.toText = .ok v) :
    Carried m headers (depth + 1) (some (.scalar v)) ⟨f, [leaf v], some (.scalar v)⟩ where
  written := by
    refine ⟨[(f.wire, v.toText)], ?_, ?_⟩
    · rw [memberWrites_write, Module.writes, codecs.encodes]
      rfl
    · simp [tableEntries, elementPath_tag named, FieldParts.children, single, numbered, leaf,
        Node.childEntries, Node.entries]
  fits := by
    refine ⟨source, by simp, fun _ => ⟨.scalar v, by simp [FieldRead.store, single], ?_⟩⟩
    intro rest _
    simpa [FieldParts.events, leaf] using yields_readXml_scalar codecs.decodes read
  canonical := by
    intro n mem
    rw [List.mem_singleton.mp mem]
    exact .text _
  named := named

theorem itemWrites_scalars {item : String} (named : isTag f.wire) {kind : PrimitiveKind}
    (items : m.Scalars item kind) (n : Nat) (vs : List Scalar) :
    ∃ t, m.itemWrites item f.wire n (vs.map .scalar) = some (paramWrites t) ∧
      tableEntries t = Node.childEntries (numbered f.wire n (vs.map leaf)) := by
  induction vs generalizing n with
  | nil => exact ⟨[], rfl, rfl⟩
  | cons v vs ih =>
    obtain ⟨t, written, paths⟩ := ih (n + 1)
    refine ⟨(joinPath f.wire (indexText n), v.toText) :: t, ?_, ?_⟩
    · rw [List.map_cons, Module.itemWrites, Module.writes, items.encodes, written]
      rfl
    · rw [tableEntries, List.map_cons, elementPath_index named, ← tableEntries, paths]
      rfl

theorem carried_list {item : String} (source : f.source = .body none)
    (many : f.collection = some .list) (named : isTag f.wire)
    (encodes : m.encoderBody? f.type = some (.list item))
    (decodes : m.decoderBody? f.type = some (.list item))
    {kind : PrimitiveKind} (items : m.Scalars item kind) {vs : List Scalar}
    (read : ∀ v ∈ vs, Scalar.ofText kind f.wire v.toText = .ok v) :
    Carried m headers (depth + 2) (some (.list (vs.map .scalar)))
      ⟨f, vs.map leaf, if vs = [] then none else some (.list (vs.map .scalar))⟩ where
  written := by
    obtain ⟨t, written, paths⟩ := itemWrites_scalars named items 1 vs
    refine ⟨t, ?_, ?_⟩
    · rw [memberWrites_write, Module.writes, encodes, ← written]
    · rw [paths]
      simp [FieldParts.children, many]
  fits := by
    refine ⟨source, fun none => if_pos (List.map_eq_nil_iff.mp none), fun some => ?_⟩
    have filled : vs ≠ [] := fun none => some (List.map_eq_nil_iff.mpr none)
    refine ⟨.list (vs.map .scalar), by simp [filled, FieldRead.store, many, Value.mergeInto], ?_⟩
    intro rest ends
    have all : Yields (m.readXml headers (depth + 2) f.type f.wire)
        ((vs.map fun v => (Value.scalar v, leaf v)).flatMap (fun i => element f.wire i.2) ++ rest)
        (.list ((vs.map fun v => (Value.scalar v, leaf v)).map (·.1))) rest := by
      refine yields_readXml_list decodes (fun i mem rest => ?_) ends
      obtain ⟨v, here, rfl⟩ := List.mem_map.mp mem
      exact yields_readXml_scalar items.decodes (read v here)
    simpa [FieldParts.events, List.flatMap_map, Function.comp_def] using all
  canonical := by
    intro n mem
    obtain ⟨v, -, rfl⟩ := List.mem_map.mp mem
    exact .text _
  named := named

theorem entryWrites_scalars {key value keyWire valueWire : String} (named : isTag f.wire)
    (keyNamed : isTag keyWire) (valueNamed : isTag valueWire) {kind kind' : PrimitiveKind}
    (keys : m.Scalars key kind) (values : m.Scalars value kind') (n : Nat)
    (entries : List (Scalar × Scalar)) :
    ∃ t, m.entryWrites key value keyWire valueWire f.wire n
        (entries.map fun e => (e.1, .scalar e.2)) = some (paramWrites t) ∧
      tableEntries t = Node.childEntries (numbered f.wire n
        (entries.map fun e => entryNode keyWire valueWire e.1 e.2)) := by
  induction entries generalizing n with
  | nil => exact ⟨[], rfl, rfl⟩
  | cons e entries ih =>
    obtain ⟨t, written, paths⟩ := ih (n + 1)
    refine ⟨(joinPath (joinPath f.wire (indexText n)) keyWire, e.1.toText) ::
      (joinPath (joinPath f.wire (indexText n)) valueWire, e.2.toText) :: t, ?_, ?_⟩
    · rw [List.map_cons, Module.entryWrites, keys.encodes, Module.writes,
        values.encodes, written]
      rfl
    · rw [tableEntries, List.map_cons, List.map_cons, elementPath_part named n keyNamed,
        elementPath_part named n valueNamed, ← tableEntries, paths]
      rfl

theorem canonical_entryNode {keyWire valueWire : String} (keyNamed : isTag keyWire)
    (valueNamed : isTag valueWire) (apart : keyWire ≠ valueWire) (k v : Scalar) :
    (entryNode keyWire valueWire k v).Canonical := by
  refine .parent (by simp) ?_ (by simpa using apart) ?_
  · simp [keyNamed, valueNamed]
  · intro child mem
    simp only [List.mem_cons, List.not_mem_nil, or_false] at mem
    rcases mem with rfl | rfl <;> exact .text _

theorem carried_map {key value keyWire valueWire : String} (source : f.source = .body none)
    (many : f.collection = some .map) (named : isTag f.wire) (keyNamed : isTag keyWire)
    (valueNamed : isTag valueWire) (apart : keyWire ≠ valueWire)
    (encodes : m.encoderBody? f.type = some (.map key value keyWire valueWire))
    (decodes : m.decoderBody? f.type = some (.map key value keyWire valueWire))
    {kind kind' : PrimitiveKind} (keys : m.Scalars key kind) (values : m.Scalars value kind')
    {entries : List (Scalar × Scalar)}
    (read : ∀ e ∈ entries, Scalar.ofText kind keyWire e.1.toText = .ok e.1 ∧
      Scalar.ofText kind' valueWire e.2.toText = .ok e.2)
    (ascending : entries.Pairwise fun a b => Scalar.lt a.1 b.1 = true ∧ Scalar.lt b.1 a.1 = false) :
    Carried m headers (depth + 2) (some (.map (entries.map fun e => (e.1, .scalar e.2))))
      ⟨f, entries.map fun e => entryNode keyWire valueWire e.1 e.2,
        if entries = [] then none else some (.map (entries.map fun e => (e.1, .scalar e.2)))⟩ where
  written := by
    obtain ⟨t, written, paths⟩ :=
      entryWrites_scalars named keyNamed valueNamed keys values 1 entries
    refine ⟨t, ?_, ?_⟩
    · rw [memberWrites_write, Module.writes, encodes, ← written]
    · rw [paths]
      simp [FieldParts.children, many]
  fits := by
    refine ⟨source, fun none => if_pos (List.map_eq_nil_iff.mp none), fun some => ?_⟩
    have filled : entries ≠ [] := fun none => some (List.map_eq_nil_iff.mpr none)
    have kept : Value.ofEntries (entries.map fun e => (e.1, .scalar e.2)) =
        .map (entries.map fun e => (e.1, .scalar e.2)) := by
      rw [Value.ofEntries, SortedMap.ofFirst_ascending]
      exact List.pairwise_map.mpr ascending
    refine ⟨.map (entries.map fun e => (e.1, .scalar e.2)),
      by simp [filled, FieldRead.store, many, Value.mergeInto], fun rest ends => ?_⟩
    rw [← kept]
    simpa [FieldParts.events, List.flatMap_map] using
      yields_readXml_map decodes keys.decodes values.decodes read ends
  canonical := by
    intro n mem
    obtain ⟨e, -, rfl⟩ := List.mem_map.mp mem
    exact canonical_entryNode keyNamed valueNamed apart e.1 e.2
  named := named

end Members

/-- A member that is a scalar, if present. -/
def scalarMember (f : FieldRead) (v : Option Scalar) : Option Value × FieldParts :=
  (v.map .scalar, ⟨f, (v.map leaf).toList, v.map .scalar⟩)

/-- A member that is a list of scalars, if present; a list without items is not read back. -/
def listMember (f : FieldRead) (vs : Option (List Scalar)) : Option Value × FieldParts :=
  (vs.map fun vs => .list (vs.map .scalar),
    ⟨f, (vs.getD []).map leaf, (vs.filter (!·.isEmpty)).map fun vs => .list (vs.map .scalar)⟩)

/-- A member that is a map of scalars, if present; a map without entries is not read back. -/
def mapMember (f : FieldRead) (keyWire valueWire : String)
    (entries : Option (List (Scalar × Scalar))) : Option Value × FieldParts :=
  (entries.map fun es => .map (es.map fun e => (e.1, .scalar e.2)),
    ⟨f, (entries.getD []).map fun e => entryNode keyWire valueWire e.1 e.2,
      (entries.filter (!·.isEmpty)).map fun es => .map (es.map fun e => (e.1, .scalar e.2))⟩)

section Optional
variable {m : Module} {headers : Headers} {depth : Nat} {f : FieldRead}

theorem carried_scalarMember (source : f.source = .body none) (single : f.collection = none)
    (named : isTag f.wire) {kind : PrimitiveKind} (codecs : m.Scalars f.type kind)
    {v : Option Scalar}
    (optional : v = none → f.required = false)
    (read : ∀ s ∈ v, Scalar.ofText kind f.wire s.toText = .ok s) :
    Carried m headers (depth + 1) (scalarMember f v).1 (scalarMember f v).2 := by
  cases v with
  | none => exact carried_none source (optional rfl) named
  | some v => exact carried_scalar source single named codecs (read v rfl)

theorem carried_listMember {item : String} (source : f.source = .body none)
    (many : f.collection = some .list) (named : isTag f.wire)
    (encodes : m.encoderBody? f.type = some (.list item))
    (decodes : m.decoderBody? f.type = some (.list item))
    {kind : PrimitiveKind} (items : m.Scalars item kind) {vs : Option (List Scalar)}
    (optional : f.required = false)
    (read : ∀ items ∈ vs, ∀ v ∈ items, Scalar.ofText kind f.wire v.toText = .ok v) :
    Carried m headers (depth + 2) (listMember f vs).1 (listMember f vs).2 := by
  cases vs with
  | none => exact carried_none source optional named
  | some vs =>
    cases vs <;> exact carried_list source many named encodes decodes items (read _ rfl)

theorem carried_mapMember {key value keyWire valueWire : String} (source : f.source = .body none)
    (many : f.collection = some .map) (named : isTag f.wire) (keyNamed : isTag keyWire)
    (valueNamed : isTag valueWire) (apart : keyWire ≠ valueWire)
    (encodes : m.encoderBody? f.type = some (.map key value keyWire valueWire))
    (decodes : m.decoderBody? f.type = some (.map key value keyWire valueWire))
    {kind kind' : PrimitiveKind} (keys : m.Scalars key kind) (values : m.Scalars value kind')
    {entries : Option (List (Scalar × Scalar))} (optional : f.required = false)
    (read : ∀ es ∈ entries, ∀ e ∈ es, Scalar.ofText kind keyWire e.1.toText = .ok e.1 ∧
      Scalar.ofText kind' valueWire e.2.toText = .ok e.2)
    (ascending : ∀ es ∈ entries,
      es.Pairwise fun a b => Scalar.lt a.1 b.1 = true ∧ Scalar.lt b.1 a.1 = false) :
    Carried m headers (depth + 2) (mapMember f keyWire valueWire entries).1
      (mapMember f keyWire valueWire entries).2 := by
  cases entries with
  | none => exact carried_none source optional named
  | some es =>
    cases es <;> exact carried_map source many named keyNamed valueNamed apart encodes decodes keys
      values (read _ rfl) (ascending _ rfl)

end Optional

section Structures
variable {m : Module} {headers : Headers} {depth : Nat}

/-- Members, each with the value that is written. -/
abbrev Members := List (Option Value × FieldParts)

namespace Members

/-- The elements of all members. -/
def children (members : Members) : List (Key × Node) :=
  members.flatMap fun p => p.2.children

/-- The events of an element `root` with the members. -/
def events (root : String) (members : Members) : List Event :=
  .opening root :: Node.childEvents members.children ++ [.closing root]

/-- The structure that is written. -/
def given (members : Members) : Value :=
  .struct (members.map fun p => (p.2.field.field, p.1))

/-- The structure that is read back. -/
def received (members : Members) : Value :=
  .struct (members.map fun p => (p.2.field.field, p.2.slot))

end Members

theorem childEntries_append (xs ys : List (Key × Node)) :
    Node.childEntries (xs ++ ys) = Node.childEntries xs ++ Node.childEntries ys := by
  induction xs with
  | nil => rfl
  | cons x xs ih => simp [Node.childEntries, ih]

theorem childEvents_append (xs ys : List (Key × Node)) :
    Node.childEvents (xs ++ ys) = Node.childEvents xs ++ Node.childEvents ys := by
  induction xs with
  | nil => rfl
  | cons x xs ih => simp [Node.childEvents, ih]

theorem FieldParts.childEvents_children (p : FieldParts) :
    Node.childEvents p.children = p.events :=
  childEvents_numbered _ _ _

theorem Members.childEvents_children (members : Members) :
    Node.childEvents members.children = (members.map (·.2)).flatMap FieldParts.events := by
  induction members with
  | nil => rfl
  | cons p members ih =>
    rw [children, List.flatMap_cons, childEvents_append, ← children, ih,
      FieldParts.childEvents_children]
    rfl

theorem fieldWrites_carried {members : Members}
    (carried : ∀ p ∈ members, Carried m headers depth p.1 p.2) :
    ∃ t, m.fieldWrites "" (members.map fun p => p.2.field.write)
        (members.map fun p => (p.2.field.field, p.1)) = some (paramWrites t) ∧
      tableEntries t = Node.childEntries members.children := by
  induction members with
  | nil => exact ⟨[], rfl, rfl⟩
  | cons p members ih =>
    obtain ⟨t, written, paths⟩ := (carried p List.mem_cons_self).written
    obtain ⟨t', written', paths'⟩ := ih fun q mem => carried q (List.mem_cons_of_mem _ mem)
    refine ⟨t ++ t', ?_, ?_⟩
    · rw [List.map_cons, List.map_cons, Module.fieldWrites, if_neg (by simp [FieldRead.write]),
        written, written']
      simp [paramWrites]
    · rw [Members.children, List.flatMap_cons, childEntries_append, ← paths, ← Members.children,
        ← paths']
      simp [tableEntries]

theorem mem_children {p : FieldParts} {child : Key × Node} (mem : child ∈ p.children) :
    child.1.1 = p.field.wire ∧ child.2 ∈ p.parts :=
  ⟨(mem_numbered mem).1, (mem_numbered mem).2.2⟩

theorem children_nodup {members : Members}
    (distinct : (members.map fun p => p.2.field.wire).Nodup) :
    (members.children.map (·.1)).Nodup := by
  induction members with
  | nil => exact List.nodup_nil
  | cons p members ih =>
    obtain ⟨fresh, distinct⟩ := List.nodup_cons.mp distinct
    rw [Members.children, List.flatMap_cons, List.map_append]
    refine List.nodup_append.mpr ⟨numbered_nodup _ _ _, ih distinct, ?_⟩
    rintro key mem _ other rfl
    obtain ⟨child, here, rfl⟩ := List.mem_map.mp mem
    obtain ⟨child', there, same⟩ := List.mem_map.mp other
    obtain ⟨q, member, there⟩ := List.mem_flatMap.mp there
    have shared : q.2.field.wire = p.2.field.wire := by
      rw [← (mem_children here).1, ← (mem_children there).1, same]
    have named : q.2.field.wire ∈ members.map fun p => p.2.field.wire :=
      List.mem_map_of_mem member
    rw [shared] at named
    exact fresh named

theorem canonical_members {members : Members}
    (carried : ∀ p ∈ members, Carried m headers depth p.1 p.2)
    (distinct : (members.map fun p => p.2.field.wire).Nodup) (present : members.children ≠ []) :
    (Node.mk none members.children).Canonical := by
  refine .parent present ?_ (children_nodup distinct) ?_
  · intro child mem
    obtain ⟨p, member, here⟩ := List.mem_flatMap.mp mem
    rw [(mem_children here).1]
    exact (carried p member).named
  · intro child mem
    obtain ⟨p, member, here⟩ := List.mem_flatMap.mp mem
    exact (carried p member).canonical _ (mem_children here).2

/-- A structure of carried members goes through its parameters, the document that they describe and
the events of the document. -/
theorem carried_struct {type root shape : String} {members : Members} {r : Request}
    (encodes : m.encoderBody? type = some (.struct (members.map fun p => p.2.field.write)))
    (decodes : m.decoderBody? type = some (.struct shape (members.map fun p => p.2.field)))
    (carried : ∀ p ∈ members, Carried m headers depth p.1 p.2)
    (distinct : (members.map fun p => p.2.field.wire).Nodup) (present : members.children ≠ [])
    (filled : ∀ p ∈ members, p.2.field.required → p.2.slot.isSome) (named : isName root)
    (fresh : r.params = []) :
    ∃ sent, m.encode type "" members.given r = some sent ∧
      ofBytes (Text.utf8 (document root sent.params)) = .ok (members.events root) ∧
      Yields (m.readXml headers (depth + 1) type root) (members.events root)
        members.received [] := by
  obtain ⟨t, written, paths⟩ := fieldWrites_carried carried
  have canonical := canonical_members carried distinct present
  have names : (t.map (·.1)).Nodup := by
    have apart := canonical.paths_nodup
    rw [Node.entries, ← paths, tableEntries, List.map_map] at apart
    exact List.Nodup.of_map elementPath (by simpa [Function.comp_def] using apart)
  have sent : (r.writeAll (paramWrites t)).params = t := by
    rw [paramWrites, Request.params_writeAll (by simpa [fresh] using names), fresh]
    rfl
  have tree : Node.ofTable t = .mk none members.children :=
    canonical.ofTable_eq (by rw [Node.entries, ← paths, tableEntries])
  have read : Yields (m.readXml headers (depth + 1) type root)
      (.opening root :: (members.map (·.2)).flatMap FieldParts.events ++ .closing root :: [])
      (.struct ((members.map (·.2)).map fun p => (p.field.field, p.slot))) [] := by
    refine yields_readXml_struct (by simpa [Function.comp_def] using decodes) ?_
      (by simpa [Function.comp_def] using distinct) ?_
    · rintro _ mem
      obtain ⟨p, member, rfl⟩ := List.mem_map.mp mem
      exact (carried p member).fits
    · rintro _ mem
      obtain ⟨p, member, rfl⟩ := List.mem_map.mp mem
      exact filled p member
  rw [← Members.childEvents_children, List.map_map] at read
  refine ⟨r.writeAll (paramWrites t), ?_, ?_, read⟩
  · rw [Module.encode, Members.given, Module.writes, encodes]
    simp only [written, Option.map_some]
  · rw [sent, document, tree, ofBytes, events?_render named canonical, Node.events,
      Members.events]

end Structures

end ServiceClient.Codec
