import ServiceClient.Proofs.Codec.Reading
import ServiceClient.Proofs.Data.Sequence
import ServiceClient.Proofs.Markup.Rendering

/-! Decoders on the events of rendered trees. A structure whose members stand in order, each with as
many elements as its decoder consumes, is read into the slots member by member; the loop over its
children is followed by the turns that it has left. -/

namespace ServiceClient.Codec
open ServiceClient.Markup ServiceClient.Schema ServiceClient.Wire

/-- The events of one element. -/
def element (tag : String) (n : Node) : List Event :=
  .opening tag :: n.events ++ [.closing tag]

theorem length_element (tag : String) (n : Node) :
    (element tag n).length = n.events.length + 2 := by
  simp [element]

theorem length_le_elements {α : Type} (tag : α → String) (node : α → Node) (items : List α) :
    items.length ≤ (items.flatMap fun item => element (tag item) (node item)).length := by
  induction items with
  | nil => simp
  | cons item items ih =>
    simp only [List.flatMap_cons, List.length_cons, List.length_append, length_element]
    omega

/-- No further element `tag` follows. -/
inductive Ends (tag : String) : List Event → Prop
  | closing (name : String) (rest : List Event) : Ends tag (.closing name :: rest)
  | opening {name : String} (other : name ≠ tag) (rest : List Event) :
      Ends tag (.opening name :: rest)

namespace Reading
variable {α β : Type}

theorem yields_scalar {kind : PrimitiveKind} {tag s : String} {v : Scalar}
    (read : Scalar.ofText kind tag s = .ok v) (rest : List Event) :
    Yields (scalar kind tag) (element tag (.mk (some s) []) ++ rest) v rest := by
  have after : Yields (do ofOutcome (.ofExcept (Scalar.ofText kind tag s)))
      (.closing tag :: rest) v (.closing tag :: rest) := by
    rw [yields_ofOutcome, read]
    exact ⟨rfl, rfl⟩
  rw [scalar, yields_within]
  refine ⟨(Node.mk (some s) []).events ++ .closing tag :: rest, .closing tag :: rest,
    by simp [element, skipBlank_opening], ?_, skipBlank_closing tag rest⟩
  rw [yields_bind]
  refine ⟨s, .closing tag :: rest, yields_pull.mpr ?_, after⟩
  by_cases empty : s = ""
  · simp [Node.events, empty, characters]
  · simp [Node.events, empty, characters]

theorem peekStart_ends {tag : String} {rest : List Event} (ends : Ends tag rest) :
    ∃ next, peekStart rest = (.ok next, rest) ∧ next ≠ some tag := by
  cases ends with
  | closing name rest => exact ⟨none, rfl, by simp⟩
  | opening other rest => exact ⟨some _, rfl, by simpa using other⟩

theorem yields_gather {tag : String} {one : Reading α} {items : List (α × Node)}
    (each : ∀ item ∈ items, ∀ rest, Yields one (element tag item.2 ++ rest) item.1 rest)
    {rest : List Event} (ends : Ends tag rest) {limit : Nat} (enough : items.length < limit) :
    Yields (gather tag one limit) (items.flatMap (fun item => element tag item.2) ++ rest)
      (items.map (·.1)) rest := by
  induction items generalizing limit with
  | nil =>
    obtain ⟨limit, rfl⟩ := Nat.exists_eq_succ_of_ne_zero (Nat.ne_of_gt enough)
    obtain ⟨next, peeked, other⟩ := peekStart_ends ends
    rw [gather, yields_bind]
    refine ⟨next, rest, yields_pull.mpr peeked, ?_⟩
    rw [if_neg other, yields_pure]
    exact ⟨rfl, rfl⟩
  | cons item items ih =>
    obtain ⟨limit, rfl⟩ := Nat.exists_eq_succ_of_ne_zero (Nat.ne_of_gt (Nat.zero_lt_of_lt enough))
    have fewer : items.length < limit := by simpa using enough
    have later := ih (fun i mem => each i (List.mem_cons_of_mem _ mem)) fewer
    have first := each item List.mem_cons_self
      (items.flatMap (fun item => element tag item.2) ++ rest)
    rw [gather, yields_bind]
    refine ⟨some tag, (item :: items).flatMap (fun item => element tag item.2) ++ rest,
      yields_pull.mpr (by simp [element, peekStart, skipBlank_opening]), ?_⟩
    rw [if_pos rfl, List.flatMap_cons, List.append_assoc, yields_bind]
    refine ⟨item.1, _, first, ?_⟩
    rw [yields_bind]
    exact ⟨items.map (·.1), rest, later, yields_pure.mpr ⟨rfl, rfl⟩⟩

theorem yields_gatherAll {tag : String} {one : Reading α} {items : List (α × Node)}
    (each : ∀ item ∈ items, ∀ rest, Yields one (element tag item.2 ++ rest) item.1 rest)
    {rest : List Event} (ends : Ends tag rest) :
    Yields (gatherAll tag one) (items.flatMap (fun item => element tag item.2) ++ rest)
      (items.map (·.1)) rest := by
  have enough : items.length <
      (items.flatMap (fun item => element tag item.2) ++ rest).length + 1 := by
    have shorter := length_le_elements (fun _ => tag) (fun item : α × Node => item.2) items
    rw [List.length_append]
    omega
  rw [gatherAll, turns, yields_bind]
  refine ⟨_, _, ?_, yields_gather each ends enough⟩
  rw [yields_bind]
  exact ⟨_, _, yields_remaining.mpr ⟨rfl, rfl⟩, yields_pure.mpr ⟨rfl, rfl⟩⟩

/-- Turns of the loop over child elements lead from one state to the other. Each of them consumes
events, so that no more are needed than events are consumed. -/
def Passes (child : String → α → Reading α) (events : List Event) (state : α) (left : List Event)
    (reached : α) : Prop :=
  ∃ used, used + left.length ≤ events.length ∧ ∀ limit last out,
    Yields (children child limit reached) left last out →
      Yields (children child (limit + used) state) events last out

variable {child : String → α → Reading α}

theorem Passes.refl (events : List Event) (state : α) : Passes child events state events state :=
  ⟨0, by omega, fun _ _ _ yields => yields⟩

theorem Passes.trans {events middle left : List Event} {state between reached : α}
    (first : Passes child events state middle between)
    (second : Passes child middle between left reached) :
    Passes child events state left reached := by
  obtain ⟨used, short, step⟩ := first
  obtain ⟨used', short', step'⟩ := second
  refine ⟨used' + used, by omega, fun limit last out yields => ?_⟩
  rw [← Nat.add_assoc]
  exact step _ _ _ (step' _ _ _ yields)

theorem Passes.one {name : String} {events left : List Event} {state reached : α}
    (read : Yields (child name state) (.opening name :: events) reached left)
    (short : left.length ≤ events.length) :
    Passes child (.opening name :: events) state left reached := by
  refine ⟨1, by simp only [List.length_cons]; omega, fun limit last out yields => ?_⟩
  rw [children, yields_bind]
  refine ⟨some name, .opening name :: events, yields_pull.mpr rfl, ?_⟩
  rw [yields_bind]
  exact ⟨reached, left, read, yields⟩

theorem yields_allChildren {events : List Event} {state reached : α} {name : String}
    {rest : List Event} (passes : Passes child events state (.closing name :: rest) reached) :
    Yields (allChildren child state) events reached (.closing name :: rest) := by
  obtain ⟨used, short, steps⟩ := passes
  have stops : ∀ limit, Yields (children child (limit + 1) reached) (.closing name :: rest) reached
      (.closing name :: rest) := by
    intro limit
    rw [children, yields_bind]
    exact ⟨none, .closing name :: rest, yields_pull.mpr rfl, yields_pure.mpr ⟨rfl, rfl⟩⟩
  have all := steps _ _ _ (stops (events.length - used))
  have turnsLeft : events.length - used + 1 + used = events.length + 1 := by
    simp only [List.length_cons] at short
    omega
  rw [turnsLeft] at all
  rw [allChildren, turns, yields_bind]
  refine ⟨_, _, ?_, all⟩
  rw [yields_bind]
  exact ⟨_, _, yields_remaining.mpr ⟨rfl, rfl⟩, yields_pure.mpr ⟨rfl, rfl⟩⟩

end Reading

open Reading

/-- A member with the elements that hold it and the slot that it is read into. -/
structure FieldParts where
  field : FieldRead
  parts : List Node
  slot : Option Value

namespace FieldParts

def events (p : FieldParts) : List Event :=
  p.parts.flatMap (element p.field.wire)

/-- The decoder of the member consumes all its parts and reads what the slot then holds; a member
without parts is left alone. -/
structure Fits (decode : String → String → Reading Value) (p : FieldParts) : Prop where
  source : p.field.source = .body none
  absent : p.parts = [] → p.slot = none
  present : p.parts ≠ [] → ∃ v, p.slot = p.field.store v none ∧ ∀ rest, Ends p.field.wire rest →
    Yields (decode p.field.type p.field.wire) (p.events ++ rest) v rest

end FieldParts

namespace Slots

theorem member?_append {done later : Slots} {f : FieldRead} {wire : String} {slot : Option Value}
    (fresh : ∀ s ∈ done, s.1.isPart wire = false) (own : f.isPart wire) :
    member? (done ++ (f, slot) :: later) wire = some f := by
  have none : done.find? (fun s => s.1.isPart wire) = none := by
    rw [List.find?_eq_none]
    intro s mem
    simp [fresh s mem]
  simp [member?, List.find?_append, none, own]

theorem store_append {done later : Slots} {f : FieldRead} {wire : String} {slot : Option Value}
    (v : Value) (fresh : ∀ s ∈ done, s.1.isPart wire = false) (own : f.isPart wire) :
    store wire v (done ++ (f, slot) :: later) = done ++ (f, f.store v slot) :: later := by
  induction done with
  | nil => simp [store, own]
  | cons s done ih =>
    have other := fresh s List.mem_cons_self
    have rest := ih fun s mem => fresh s (List.mem_cons_of_mem _ mem)
    simp [store, other, rest]

theorem readHeaders_eq {headers : Headers} {slots : Slots}
    (body : ∀ s ∈ slots, s.1.source = .body none) : slots.readHeaders headers = pure slots := by
  induction slots with
  | nil => rfl
  | cons s slots ih =>
    obtain ⟨f, slot⟩ := s
    have own : f.source = .body none := body (f, slot) List.mem_cons_self
    have rest := ih fun s mem => body s (List.mem_cons_of_mem _ mem)
    rw [readHeaders] at rest ⊢
    rw [List.mapM_cons, rest]
    simp only [own, pure_bind]

theorem finish_eq {shape : String} {slots : Slots}
    (filled : ∀ s ∈ slots, s.1.required → s.2.isSome) :
    slots.finish shape = .ok (.struct (slots.map fun s => (s.1.field, s.2))) := by
  refine Sequence.bind_eq_ok.mpr ⟨_, Sequence.mapM_eq_ok.mpr ?_, rfl⟩
  rw [List.forall₂_map_right_iff, List.forall₂_same]
  intro s mem
  obtain ⟨f, slot⟩ := s
  have same : f.finish shape slot = .ok slot := by
    cases slot with
    | some v => rfl
    | none =>
      have optional : f.required = false := by simpa using filled _ mem
      simp [FieldRead.finish, optional]
  simp only [same, bind, Except.bind]

/-- A structure all of whose members are read from the body is closed to its fields. -/
theorem close_eq {shape : String} {headers : Headers} {slots : Slots}
    (body : ∀ s ∈ slots, s.1.source = .body none)
    (filled : ∀ s ∈ slots, s.1.required → s.2.isSome) :
    (slots.close shape headers).run =
      some (.ok (.struct (slots.map fun s => (s.1.field, s.2)))) := by
  rw [close, readHeaders_eq body, pure_bind, finish_eq filled]
  rfl

end Slots

theorem ends_fields {fields : List FieldParts} {tag : String}
    (others : ∀ p ∈ fields, p.field.wire ≠ tag) (name : String) (rest : List Event) :
    Ends tag (fields.flatMap FieldParts.events ++ .closing name :: rest) := by
  induction fields with
  | nil => exact .closing name rest
  | cons p fields ih =>
    have later := ih fun q mem => others q (List.mem_cons_of_mem _ mem)
    rw [List.flatMap_cons]
    cases parts : p.parts with
    | nil => simpa [FieldParts.events, parts] using later
    | cons n parts' =>
      simp only [FieldParts.events, parts, List.flatMap_cons, element, List.cons_append]
      exact .opening (others p List.mem_cons_self) _

theorem passes_member {decode : String → String → Reading Value} {p : FieldParts}
    (fits : p.Fits decode) {done : Slots} (later : Slots)
    (fresh : ∀ s ∈ done, s.1.isPart p.field.wire = false) {rest : List Event}
    (ends : Ends p.field.wire rest) :
    Passes (Module.readChild decode) (p.events ++ rest) (done ++ (p.field, none) :: later) rest
      (done ++ (p.field, p.slot) :: later) := by
  have own : p.field.isPart p.field.wire := by
    simp [FieldRead.isPart, FieldRead.isHeader, fits.source]
  cases parts : p.parts with
  | nil =>
    rw [fits.absent parts, FieldParts.events, parts]
    exact .refl _ _
  | cons n parts' =>
    obtain ⟨v, stored, reads⟩ := fits.present (parts ▸ List.cons_ne_nil _ _)
    have read := reads rest ends
    simp only [FieldParts.events, parts, List.flatMap_cons, element, List.cons_append] at read ⊢
    rw [stored, ← Slots.store_append v fresh own]
    refine .one ?_ (by simp only [List.length_append]; omega)
    rw [Module.readChild, Slots.member?_append fresh own]
    simp only [fits.source]
    rw [yields_bind]
    exact ⟨v, rest, read, yields_pure.mpr ⟨rfl, rfl⟩⟩

/-- The members of a structure are read into their slots in turn. -/
theorem passes_fields {decode : String → String → Reading Value} {fields : List FieldParts}
    (fits : ∀ p ∈ fields, p.Fits decode) (done : Slots)
    (distinct : (done.map (·.1.wire) ++ fields.map (·.field.wire)).Nodup) (name : String)
    (rest : List Event) :
    Passes (Module.readChild decode) (fields.flatMap FieldParts.events ++ .closing name :: rest)
      (done ++ Slots.start (fields.map (·.field))) (.closing name :: rest)
      (done ++ fields.map fun p => (p.field, p.slot)) := by
  induction fields generalizing done with
  | nil => simpa [Slots.start] using Passes.refl _ _
  | cons p fields ih =>
    have distinct' : ((done ++ [(p.field, p.slot)]).map (·.1.wire) ++
        fields.map (·.field.wire)).Nodup := by
      simpa using distinct
    rw [List.map_cons, List.nodup_append, List.nodup_cons] at distinct
    obtain ⟨earlier, ⟨own, later⟩, apart⟩ := distinct
    have fresh : ∀ s ∈ done, s.1.isPart p.field.wire = false := by
      intro s mem
      have differ := apart _ (List.mem_map_of_mem mem) _ List.mem_cons_self
      simp [FieldRead.isPart, differ]
    have others : ∀ q ∈ fields, q.field.wire ≠ p.field.wire := by
      rintro q mem same
      have named : q.field.wire ∈ fields.map (·.field.wire) := List.mem_map_of_mem mem
      exact own (same ▸ named)
    have first := passes_member (fits p List.mem_cons_self)
      (Slots.start (fields.map (·.field))) fresh (ends_fields others name rest)
    have rest := ih (fun q mem => fits q (List.mem_cons_of_mem _ mem)) _ distinct'
    simp only [List.append_assoc, List.singleton_append] at rest
    rw [List.flatMap_cons, List.append_assoc]
    exact first.trans rest

section Types
variable {m : Module} {headers : Headers} {depth : Nat} {type tag : String} {rest : List Event}

theorem yields_readXml_scalar {kind : PrimitiveKind}
    (body : m.decoderBody? type = some (.scalar kind)) {s : String} {v : Scalar}
    (read : Scalar.ofText kind tag s = .ok v) :
    Yields (m.readXml headers (depth + 1) type tag) (element tag (.mk (some s) []) ++ rest)
      (.scalar v) rest := by
  rw [Module.readXml, body]
  exact yields_bind.mpr ⟨v, rest, yields_scalar read rest, yields_pure.mpr ⟨rfl, rfl⟩⟩

theorem yields_readXml_list {item : String} (body : m.decoderBody? type = some (.list item))
    {items : List (Value × Node)}
    (each : ∀ i ∈ items, ∀ rest, Yields (m.readXml headers depth item tag)
      (element tag i.2 ++ rest) i.1 rest)
    (ends : Ends tag rest) :
    Yields (m.readXml headers (depth + 1) type tag)
      (items.flatMap (fun i => element tag i.2) ++ rest) (.list (items.map (·.1))) rest := by
  rw [Module.readXml, body]
  exact yields_bind.mpr ⟨_, rest, yields_gatherAll each ends, yields_pure.mpr ⟨rfl, rfl⟩⟩

/-- An entry of a map. -/
def entryNode (keyWire valueWire : String) (k v : Scalar) : Node :=
  .mk none [((keyWire, 0), .mk (some k.toText) []), ((valueWire, 0), .mk (some v.toText) [])]

theorem yields_entry {value keyWire valueWire : String} {kind kind' : PrimitiveKind}
    (values : m.decoderBody? value = some (.scalar kind')) {k v : Scalar}
    (key : Scalar.ofText kind keyWire k.toText = .ok k)
    (read : Scalar.ofText kind' valueWire v.toText = .ok v) :
    Yields
      (within tag do
        let k ← Reading.scalar kind keyWire
        let v ← m.readXml headers (depth + 1) value valueWire
        pure (k, v))
      (element tag (entryNode keyWire valueWire k v) ++ rest) (k, .scalar v) rest := by
  have events : (entryNode keyWire valueWire k v).events =
      element keyWire (.mk (some k.toText) []) ++ element valueWire (.mk (some v.toText) []) := by
    simp [entryNode, Node.events, Node.childEvents, element]
  refine yields_within.mpr ⟨(entryNode keyWire valueWire k v).events ++ .closing tag :: rest,
    .closing tag :: rest, by simp [element, skipBlank_opening], ?_, skipBlank_closing tag rest⟩
  rw [events, List.append_assoc]
  refine yields_bind.mpr ⟨k, _, yields_scalar key _, ?_⟩
  exact yields_bind.mpr ⟨.scalar v, _, yields_readXml_scalar values read,
    yields_pure.mpr ⟨rfl, rfl⟩⟩

theorem yields_readXml_map {key value keyWire valueWire : String} {kind kind' : PrimitiveKind}
    (body : m.decoderBody? type = some (.map key value keyWire valueWire))
    (keys : m.decoderBody? key = some (.scalar kind))
    (values : m.decoderBody? value = some (.scalar kind')) {entries : List (Scalar × Scalar)}
    (read : ∀ e ∈ entries, Scalar.ofText kind keyWire e.1.toText = .ok e.1 ∧
      Scalar.ofText kind' valueWire e.2.toText = .ok e.2)
    (ends : Ends tag rest) :
    Yields (m.readXml headers (depth + 2) type tag)
      (entries.flatMap (fun e => element tag (entryNode keyWire valueWire e.1 e.2)) ++ rest)
      (.ofEntries (entries.map fun e => (e.1, .scalar e.2))) rest := by
  have kinds : m.scalarKind? key = some kind := by simp [Module.scalarKind?, keys]
  have all : Yields
      (gatherAll tag (within tag do
        let k ← Reading.scalar kind keyWire
        let v ← m.readXml headers (depth + 1) value valueWire
        pure (k, v)))
      ((entries.map fun e => ((e.1, Value.scalar e.2), entryNode keyWire valueWire e.1 e.2)).flatMap
        (fun i => element tag i.2) ++ rest)
      ((entries.map fun e => ((e.1, Value.scalar e.2), entryNode keyWire valueWire e.1 e.2)).map
        (·.1)) rest := by
    refine yields_gatherAll (fun i mem rest => ?_) ends
    obtain ⟨e, here, rfl⟩ := List.mem_map.mp mem
    exact yields_entry values (read e here).1 (read e here).2
  rw [List.flatMap_map, List.map_map] at all
  rw [Module.readXml, body]
  simp only [kinds]
  exact yields_bind.mpr ⟨_, rest, all, yields_pure.mpr ⟨rfl, rfl⟩⟩

theorem yields_readXml_struct {shape : String} {fields : List FieldParts}
    (body : m.decoderBody? type = some (.struct shape (fields.map (·.field))))
    (fits : ∀ p ∈ fields, p.Fits (m.readXml headers depth))
    (distinct : (fields.map (·.field.wire)).Nodup)
    (filled : ∀ p ∈ fields, p.field.required → p.slot.isSome) :
    Yields (m.readXml headers (depth + 1) type tag)
      (.opening tag :: fields.flatMap FieldParts.events ++ .closing tag :: rest)
      (.struct (fields.map fun p => (p.field.field, p.slot))) rest := by
  have passes : Passes (Module.readChild (m.readXml headers depth))
      (fields.flatMap FieldParts.events ++ .closing tag :: rest)
      (Slots.start (fields.map (·.field))) (.closing tag :: rest)
      (fields.map fun p => (p.field, p.slot)) := by
    simpa using passes_fields fits [] (by simpa using distinct) tag rest
  have closed : (Slots.close shape headers (fields.map fun p => (p.field, p.slot))).run =
      some (.ok (.struct (fields.map fun p => (p.field.field, p.slot)))) := by
    rw [Slots.close_eq]
    · simp
    · simpa using fun p mem => (fits p mem).source
    · simpa using filled
  rw [Module.readXml, body]
  refine yields_bind.mpr ⟨_, rest, yields_within.mpr ⟨_, _, skipBlank_opening tag _,
    yields_allChildren passes, skipBlank_closing tag rest⟩, ?_⟩
  exact yields_ofOutcome.mpr ⟨closed, rfl⟩

end Types

end ServiceClient.Codec
