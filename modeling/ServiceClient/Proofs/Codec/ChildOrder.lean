import ServiceClient.Proofs.Codec.Siblings
import Mathlib.Data.List.Forall2

/-! The order of children. What a structure is decoded to is told by the children of each member, in
their order; how they are mixed with those of others, and what else the element holds, is all the
same. -/

namespace ServiceClient.Codec
open ServiceClient.Markup ServiceClient.Schema ServiceClient.Wire

namespace Slots

/-- The same slots in turn, each with a new content. -/
def Each (R : FieldRead → Option Value → Option Value → Prop) : Slots → Slots → Prop :=
  List.Forall₂ fun s s' => s'.1 = s.1 ∧ R s.1 s.2 s'.2

section Each
variable {R S : FieldRead → Option Value → Option Value → Prop} {slots slots' : Slots}

theorem each_cons {s : FieldRead × Option Value} : Each R (s :: slots) slots' ↔
    ∃ s' rest, (s'.1 = s.1 ∧ R s.1 s.2 s'.2) ∧ Each R slots rest ∧ slots' = s' :: rest :=
  List.forall₂_cons_left_iff

theorem each_congr (same : ∀ f ∈ slots.map (·.1), ∀ slot slot', R f slot slot' ↔ S f slot slot') :
    Each R slots slots' ↔ Each S slots slots' := by
  induction slots generalizing slots' with
  | nil => simp [Each]
  | cons s slots ih =>
    rw [List.map_cons, List.forall_mem_cons] at same
    simp only [each_cons, same.1, ih same.2]

theorem each_eq : Each (fun _ slot slot' => slot' = slot) slots slots' ↔ slots' = slots := by
  induction slots generalizing slots' with
  | nil => simp [Each]
  | cons s slots ih =>
    simp only [each_cons, ih]
    constructor
    · rintro ⟨s', _, ⟨name, value⟩, rfl, rfl⟩
      rw [Prod.ext name value]
    · rintro rfl
      exact ⟨s, slots, ⟨rfl, rfl⟩, rfl, rfl⟩

end Each

/-- Of any two members, at most one has parts of that name. -/
def Apart (fields : List FieldRead) : Prop :=
  fields.Pairwise fun f g => ∀ wire, f.isPart wire → g.isPart wire = false

theorem isPart_of_member?_none {slots : Slots} {wire : String}
    (unknown : slots.member? wire = none) : ∀ f ∈ slots.map (·.1), f.isPart wire = false := by
  intro f mem
  obtain ⟨s, here, rfl⟩ := List.mem_map.mp mem
  simpa using List.find?_eq_none.mp (Option.map_eq_none_iff.mp unknown) s here

/-- Storing touches one slot, that of the only member which has the part. -/
theorem exists_store_iff {P : FieldRead → Value → Prop}
    {R : FieldRead → Option Value → Option Value → Prop} {wire : String} {f : FieldRead}
    {slots slots' : Slots} (apart : Apart (slots.map (·.1))) (found : slots.member? wire = some f) :
    (∃ v, P f v ∧ Each R (slots.store wire v) slots') ↔
      Each (fun g slot slot' => if g.isPart wire then ∃ v, P g v ∧ R g (g.store v slot) slot'
        else R g slot slot') slots slots' := by
  induction slots generalizing slots' with
  | nil => cases found
  | cons s slots ih =>
    obtain ⟨g, slot⟩ := s
    rw [Apart, List.map_cons, List.pairwise_cons] at apart
    obtain ⟨alone, apart⟩ := apart
    by_cases part : g.isPart wire
    · obtain rfl : g = f := by simpa [member?, part] using found
      -- No other member has the part, so that what is asked of the rest stays as it was.
      have others : ∀ rest, Each R slots rest ↔ Each (fun g slot slot' =>
          if g.isPart wire then ∃ v, P g v ∧ R g (g.store v slot) slot' else R g slot slot')
          slots rest := fun rest =>
        each_congr fun f mem slot slot' => by rw [if_neg (by simp [alone f mem wire part])]
      simp only [store, part, if_true, each_cons, others]
      constructor
      · rintro ⟨v, holds, s', rest, ⟨name, value⟩, onwards, rfl⟩
        exact ⟨s', rest, ⟨name, v, holds, value⟩, onwards, rfl⟩
      · rintro ⟨s', rest, ⟨name, v, holds, value⟩, onwards, rfl⟩
        exact ⟨v, holds, s', rest, ⟨name, value⟩, onwards, rfl⟩
    · have found : member? slots wire = some f := by simpa [member?, part] using found
      simp only [store, part, Bool.false_eq_true, if_false, each_cons, ← ih apart found]
      constructor
      · rintro ⟨v, holds, s', rest, value, onwards, rfl⟩
        exact ⟨s', rest, value, ⟨v, holds, onwards⟩, rfl⟩
      · rintro ⟨s', rest, value, ⟨v, holds, onwards⟩, rfl⟩
        exact ⟨v, holds, s', rest, value, onwards, rfl⟩

end Slots

namespace FieldRead
variable {f : FieldRead} {c : Child} {cs : List Child}

/-- The children that are part of the member, in order. -/
def own (f : FieldRead) (cs : List Child) : List Child :=
  cs.filter fun c => f.isPart c.name

theorem own_cons_of_part (part : f.isPart c.name) : f.own (c :: cs) = c :: f.own cs :=
  List.filter_cons_of_pos part

theorem own_cons_of_not_part (other : ¬f.isPart c.name) : f.own (c :: cs) = f.own cs :=
  List.filter_cons_of_neg other

/-- A member that travels in a header has no children, and one of the body those of its name. -/
theorem own_eq {d d' : Record} (same : f.isHeader = false → d.named f.wire = d'.named f.wire) :
    f.own d.children = f.own d'.children := by
  cases header : f.isHeader with
  | true => simp [own, isPart, header]
  | false =>
    have named : ∀ d : Record, f.own d.children = d.named f.wire := by
      intro d
      simp [own, isPart, header, Record.named, Bool.beq_comm]
    rw [named, named, same header]

end FieldRead

/-- The names of the parts that the members of a structure are found in. -/
def bodyWires (fields : List FieldRead) : List String :=
  (fields.filter (!·.isHeader)).map (·.wire)

theorem mem_bodyWires {fields : List FieldRead} {f : FieldRead} (mem : f ∈ fields)
    (isBody : f.isHeader = false) : f.wire ∈ bodyWires fields :=
  List.mem_map_of_mem (List.mem_filter.mpr ⟨mem, by simp [isBody]⟩)

theorem apart_of_nodup {fields : List FieldRead} (distinct : (bodyWires fields).Nodup) :
    Slots.Apart fields := by
  rw [bodyWires, List.Nodup, List.pairwise_map, List.pairwise_filter] at distinct
  refine distinct.imp fun {f g} other wire part => ?_
  simp only [FieldRead.isPart, Bool.and_eq_true, beq_iff_eq] at part
  by_contra part'
  simp only [FieldRead.isPart, Bool.not_eq_false, Bool.and_eq_true, beq_iff_eq] at part'
  exact other part.1 part'.1 (part.2.trans part'.2.symm)

namespace Module
open Reading

section Absorption
variable (m : Module) (headers : Headers) (depth : Nat)

/-- What children make of the slots, one after the other. -/
def AbsorbsAll : List Child → Slots → Slots → Prop
  | [], slots, slots' => slots' = slots
  | c :: cs, slots, slots' =>
    ∃ next, Absorbs m headers depth c slots next ∧ AbsorbsAll cs next slots'

/-- What the children of one member make of its slot. -/
def Fills (f : FieldRead) : List Child → Option Value → Option Value → Prop
  | [], slot, slot' => slot' = slot
  | c :: cs, slot, slot' => ∃ v, Yields (m.readPiece headers depth c.name f) c.events v [] ∧
      Fills f cs (f.store v slot) slot'

end Absorption

variable {m : Module} {headers : Headers} {depth : Nat}

/-- A child changes the slot of the only member that it is part of. -/
theorem exists_absorbs_iff {R : FieldRead → Option Value → Option Value → Prop} {c : Child}
    {slots slots' : Slots} (apart : Slots.Apart (slots.map (·.1))) :
    (∃ next, m.Absorbs headers depth c slots next ∧ Slots.Each R next slots') ↔
      Slots.Each (fun f slot slot' =>
        if f.isPart c.name then ∃ v, Yields (m.readPiece headers depth c.name f) c.events v [] ∧
          R f (f.store v slot) slot'
        else R f slot slot') slots slots' := by
  cases found : slots.member? c.name with
  | none =>
    simp only [Absorbs, found, exists_eq_left]
    refine Slots.each_congr fun f mem slot slot' => ?_
    rw [if_neg (by simp [Slots.isPart_of_member?_none found f mem])]
  | some f =>
    rw [← Slots.exists_store_iff apart found]
    simp only [Absorbs, found]
    constructor
    · rintro ⟨_, ⟨v, read, rfl⟩, each⟩
      exact ⟨v, read, each⟩
    · rintro ⟨v, read, each⟩
      exact ⟨_, ⟨v, read, rfl⟩, each⟩

/-- Every slot is filled by the children of its own member. -/
theorem absorbsAll_iff {cs : List Child} {slots slots' : Slots}
    (apart : Slots.Apart (slots.map (·.1))) :
    m.AbsorbsAll headers depth cs slots slots' ↔
      Slots.Each (fun f => m.Fills headers depth f (f.own cs)) slots slots' := by
  induction cs generalizing slots with
  | nil => exact Slots.each_eq.symm
  | cons c cs ih =>
    have first : m.AbsorbsAll headers depth (c :: cs) slots slots' ↔
        ∃ next, m.Absorbs headers depth c slots next ∧
          Slots.Each (fun f => m.Fills headers depth f (f.own cs)) next slots' := by
      refine exists_congr fun next => and_congr_right fun absorbs => ih ?_
      rwa [absorbs_keeps absorbs]
    rw [first, exists_absorbs_iff apart]
    refine Slots.each_congr fun f _ slot slot' => ?_
    by_cases part : f.isPart c.name
    · rw [if_pos part, FieldRead.own_cons_of_part part]
      rfl
    · rw [if_neg part, FieldRead.own_cons_of_not_part part]

/-- Reading the parts of an element ends with the element, its children absorbed one by one. -/
theorem yields_readFields_parts {slots a : Slots}
    (separable : ∀ f ∈ slots.map (·.1), m.isSeparable f) (parts : List Part) (name : String)
    (after : List Event) {left : List Event} :
    Yields (m.readFields headers depth slots)
        (parts.flatMap Part.events ++ .closing name :: after) a left ↔
      m.AbsorbsAll headers depth (parts.filterMap Part.child?) slots a ∧
        left = .closing name :: after := by
  induction parts generalizing slots with
  | nil => exact yields_readFields_closing
  | cons part parts ih =>
    rw [List.flatMap_cons, List.append_assoc]
    cases part with
    | blank s white => exact (yields_readFields_blank white).trans (ih separable)
    | child c =>
      have kept : ∀ {next}, m.Absorbs headers depth c slots next →
          ∀ f ∈ next.map (·.1), m.isSeparable f := by
        intro next absorbs
        rwa [absorbs_keeps absorbs]
      refine (yields_readFields_child separable c).trans ?_
      constructor
      · rintro ⟨next, absorbs, onwards⟩
        obtain ⟨all, rfl⟩ := (ih (kept absorbs)).mp onwards
        exact ⟨⟨next, absorbs, all⟩, rfl⟩
      · rintro ⟨⟨next, absorbs, all⟩, rfl⟩
        exact ⟨next, absorbs, (ih (kept absorbs)).mpr ⟨all, rfl⟩⟩

theorem yields_record {slots a : Slots} (separable : ∀ f ∈ slots.map (·.1), m.isSeparable f)
    (d : Record) {left : List Event} :
    Yields (within d.root (m.readFields headers depth slots)) d.events a left ↔
      m.AbsorbsAll headers depth d.children slots a ∧ left = d.after := by
  rw [yields_within, d.skipBlank_events]
  constructor
  · rintro ⟨_, rest, ⟨⟩, read, closes⟩
    obtain ⟨all, rfl⟩ := (yields_readFields_parts separable d.parts d.root d.after).mp read
    cases closes
    exact ⟨all, rfl⟩
  · rintro ⟨all, rfl⟩
    have read := (yields_readFields_parts separable d.parts d.root d.after).mpr ⟨all, rfl⟩
    exact ⟨_, _, rfl, read, rfl⟩

section Structures
variable {type shape : String} {fields : List FieldRead}
  (body : m.decoderBody? type = some (.struct shape fields))
  (ready : m.ready (m.shapes.length + 1) type) (separable : ∀ f ∈ fields, m.isSeparable f)
include body ready separable

/-- A record is decoded to what its children make of empty slots. -/
theorem yields_decodeXml_iff (d : Record) {v : Value} :
    (∃ left, Yields (m.decodeXml headers type d.root) d.events v left) ↔
      ∃ slots, m.AbsorbsAll headers m.shapes.length d.children (Slots.start fields) slots ∧
        (slots.close shape headers).run = some (.ok v) := by
  have separable : ∀ f ∈ (Slots.start fields).map (·.1), m.isSeparable f := by
    rwa [Slots.map_start]
  have ran : (m.decodeXml headers type d.root).run d.events = (do
      let slots ← within d.root (m.readFields headers m.shapes.length (Slots.start fields))
      ofOutcome (slots.close shape headers) : Reading Value).run d.events := by
    rw [decodeXml_run_eq ready (Nat.le_succ _), readXml, body]
    rfl
  have decoded : ∀ left, Yields (m.decodeXml headers type d.root) d.events v left ↔
      ∃ slots rest, (m.AbsorbsAll headers m.shapes.length d.children (Slots.start fields) slots ∧
        rest = d.after) ∧ (slots.close shape headers).run = some (.ok v) ∧ rest = left := by
    intro left
    rw [Yields, ran]
    refine yields_bind.trans (exists_congr fun slots => exists_congr fun rest => ?_)
    rw [yields_record separable d, yields_ofOutcome]
  simp only [decoded]
  constructor
  · rintro ⟨left, slots, rest, ⟨all, -⟩, closed, -⟩
    exact ⟨slots, all, closed⟩
  · rintro ⟨slots, all, closed⟩
    exact ⟨d.after, slots, d.after, ⟨all, rfl⟩, closed, rfl⟩

/-- Records with the same children of each member are decoded alike. -/
theorem yields_decodeXml_congr (distinct : (bodyWires fields).Nodup) {d d' : Record}
    (same : ∀ wire ∈ bodyWires fields, d.named wire = d'.named wire) (v : Value) :
    (∃ left, Yields (m.decodeXml headers type d.root) d.events v left) ↔
      ∃ left, Yields (m.decodeXml headers type d'.root) d'.events v left := by
  have own : ∀ f ∈ fields, f.own d.children = f.own d'.children := fun f mem =>
    f.own_eq fun isBody => same f.wire (mem_bodyWires mem isBody)
  have apart : Slots.Apart ((Slots.start fields).map (·.1)) := by
    rw [Slots.map_start]
    exact apart_of_nodup distinct
  rw [yields_decodeXml_iff body ready separable, yields_decodeXml_iff body ready separable]
  refine exists_congr fun slots => and_congr_left fun _ => ?_
  rw [absorbsAll_iff apart, absorbsAll_iff apart]
  refine Slots.each_congr fun f mem slot slot' => ?_
  rw [own f (Slots.map_start fields ▸ mem)]

end Structures

end Module
end ServiceClient.Codec
