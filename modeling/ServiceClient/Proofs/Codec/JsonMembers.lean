import ServiceClient.Proofs.Codec.ChildOrder
import ServiceClient.Proofs.Codec.JsonMaps
import ServiceClient.Proofs.Json.Written
import Mathlib.Data.List.Nodup

/-! Members of JSON objects. The slot of a member of a structure is filled from what the object
holds under its name, if that is not null, and from nothing else. So objects make the same structure
if they have the same under each name that the structure knows, however they are written. -/

namespace ServiceClient.Codec
open ServiceClient.Schema ServiceClient.Wire ServiceClient.SortedMap

namespace FieldRead

/-- What an object holds for a member; those that travel in headers have nothing there. -/
def part? (f : FieldRead) (entries : List (String × Json.Value)) : Option Json.Value :=
  if f.isHeader then none else Json.Value.present? entries f.wire

theorem part?_congr {f : FieldRead} {entries entries' : List (String × Json.Value)}
    (same : f.isHeader = false →
      Json.Value.present? entries f.wire = Json.Value.present? entries' f.wire) :
    f.part? entries = f.part? entries' := by
  rw [part?, part?]
  split
  · rfl
  · rename_i isBody
    exact same (by simpa using isBody)

theorem isPart_iff {f : FieldRead} {wire : String} :
    f.isPart wire ↔ f.isHeader = false ∧ f.wire = wire := by
  simp [isPart]

section Parts
variable {f : FieldRead} {name : String} {v : Json.Value} {entries : List (String × Json.Value)}

theorem part?_nil (f : FieldRead) : f.part? [] = none := by
  simp [part?, Json.Value.present?]

theorem part?_cons_of_other (other : f.isPart name = false) :
    f.part? ((name, v) :: entries) = f.part? entries := by
  refine part?_congr fun isBody => ?_
  have different : f.wire ≠ name := fun same => by
    simp [isPart, isBody, same] at other
  have skipped : Json.Value.present? ([] ++ (name, v) :: entries) f.wire =
      Json.Value.present? ([] ++ entries) f.wire := Json.Value.present?_of_other different
  exact skipped

theorem part?_cons_null (fresh : name ∉ keys entries) :
    f.part? ((name, .null) :: entries) = f.part? entries := by
  have skipped : Json.Value.present? ([] ++ (name, .null) :: entries) f.wire =
      Json.Value.present? ([] ++ entries) f.wire := Json.Value.present?_of_fresh fresh
  exact part?_congr fun _ => skipped

theorem part?_cons_of_isPart (part : f.isPart name) (present : v.isNull = false) :
    f.part? ((name, v) :: entries) = some v := by
  obtain ⟨isBody, rfl⟩ := isPart_iff.mp part
  simp [part?, isBody, Json.Value.present?, present]

theorem part?_of_fresh (part : f.isPart name) (fresh : name ∉ keys entries) :
    f.part? entries = none := by
  obtain ⟨isBody, rfl⟩ := isPart_iff.mp part
  have absent := Json.Value.lookup_eq_none_of_not_mem fresh
  simp [part?, isBody, Json.Value.present?, absent]

end Parts

end FieldRead

theorem eq_of_isPart {fields : List FieldRead} (distinct : (bodyWires fields).Nodup)
    {f g : FieldRead} (known : f ∈ fields) (known' : g ∈ fields) {wire : String}
    (part : f.isPart wire) (part' : g.isPart wire) : f = g := by
  obtain ⟨isBody, rfl⟩ := FieldRead.isPart_iff.mp part
  obtain ⟨isBody', same⟩ := FieldRead.isPart_iff.mp part'
  exact List.inj_on_of_nodup_map distinct (List.mem_filter.mpr ⟨known, by simp [isBody]⟩)
    (List.mem_filter.mpr ⟨known', by simp [isBody']⟩) same.symm

namespace Module
open Json.Value (firstMembers settle)
variable {m : Module} {headers : Headers}

/-- What the part of a member makes of its slot. -/
def FillsFrom (m : Module) (headers : Headers) (f : FieldRead) :
    Option Json.Value → Option Value → Option Value → Prop
  | none, slot, slot' => slot' = slot
  | some v, slot, slot' => ∃ x, (m.decodeJson headers f.type f.wire v).run = some (.ok x) ∧
      slot' = f.store x slot

theorem jsonMembers_cons {slots : Slots} {wire : String} {v : Json.Value}
    {entries : List (String × Json.Value)} (present : v.isNull = false) :
    m.jsonMembers headers slots ((wire, v) :: entries) =
      match slots.member? wire with
      | none => m.jsonMembers headers slots entries
      | some f => m.decodeJson headers f.type wire v >>= fun x =>
          m.jsonMembers headers (slots.store wire x) entries := by
  cases v with
  | null => cases present
  | _ => rfl

/-- Every slot is filled from the part of its own member. -/
theorem jsonMembers_eq_ok {entries : List (String × Json.Value)} {slots slots' : Slots}
    (apart : Slots.Apart (slots.map (·.1))) (distinct : (keys entries).Nodup) :
    (m.jsonMembers headers slots entries).run = some (.ok slots') ↔
      Slots.Each (fun f => m.FillsFrom headers f (f.part? entries)) slots slots' := by
  induction entries generalizing slots with
  | nil =>
    simp only [jsonMembers, Outcome.run_pure_eq_ok, FieldRead.part?_nil]
    exact eq_comm.trans Slots.each_eq.symm
  | cons e entries ih =>
    obtain ⟨name, v⟩ := e
    rw [keys_cons, List.nodup_cons] at distinct
    obtain ⟨fresh, distinct⟩ := distinct
    cases null : v.isNull with
    | true =>
      obtain rfl := Json.Value.isNull_eq_true_iff.mp null
      rw [jsonMembers, ih apart distinct]
      exact Slots.each_congr fun f _ slot slot' => by rw [FieldRead.part?_cons_null fresh]
    | false =>
      rw [jsonMembers_cons null]
      cases found : slots.member? name with
      | none =>
        simp only [ih apart distinct]
        refine Slots.each_congr fun f mem slot slot' => ?_
        rw [FieldRead.part?_cons_of_other (Slots.isPart_of_member?_none found f mem)]
      | some f =>
        have stored : (∃ x, (m.decodeJson headers f.type name v).run = some (.ok x) ∧
            (m.jsonMembers headers (slots.store name x) entries).run = some (.ok slots')) ↔
            ∃ x, (m.decodeJson headers f.type name v).run = some (.ok x) ∧
              Slots.Each (fun f => m.FillsFrom headers f (f.part? entries))
                (slots.store name x) slots' :=
          exists_congr fun x => and_congr_right fun _ => ih (by rwa [Slots.map_store]) distinct
        simp only [Outcome.run_bind_eq_ok, stored]
        rw [Slots.exists_store_iff (P := fun f x =>
          (m.decodeJson headers f.type name v).run = some (.ok x)) apart found]
        refine Slots.each_congr fun g _ slot slot' => ?_
        by_cases part : g.isPart name
        · obtain rfl := (FieldRead.isPart_iff.mp part).2
          rw [if_pos part, FieldRead.part?_cons_of_isPart part null,
            FieldRead.part?_of_fresh part fresh]
          rfl
        · rw [if_neg part, FieldRead.part?_cons_of_other (by simpa using part)]

/-- A structure is decoded from what an object holds for each of its members. -/
theorem decodeJson_struct {type shape field : String} {fields : List FieldRead} {x : Value}
    (body : m.decoderBody? type = some (.struct shape fields))
    (distinct : (Codec.bodyWires fields).Nodup) {entries : List (String × Json.Value)}
    (single : (keys entries).Nodup) :
    (m.decodeJson headers type field (.object entries)).run = some (.ok x) ↔
      ∃ slots, Slots.Each (fun f => m.FillsFrom headers f (f.part? entries))
        (Slots.start fields) slots ∧ (slots.close shape headers).run = some (.ok x) := by
  simp only [decodeJson, body, Outcome.run_bind_eq_ok]
  refine exists_congr fun slots => and_congr_left fun _ => jsonMembers_eq_ok ?_ single
  rw [Slots.map_start]
  exact apart_of_nodup distinct

/-- Values that differ only in what does not matter to the decoder of a type: at the objects that
are read as structures, in the order of members with different names, in members that the structure
does not know, in null members of names that are not there otherwise, and in later members of a
name. -/
inductive Alike (m : Module) : String → Json.Value → Json.Value → Prop
  | refl (type : String) (v : Json.Value) : Alike m type v v
  | symm {type : String} {v w : Json.Value} : Alike m type v w → Alike m type w v
  | trans {type : String} {u v w : Json.Value} :
      Alike m type u v → Alike m type v w → Alike m type u w
  | item {type element : String} (before after : List Json.Value) {v w : Json.Value}
      (body : m.decoderBody? type = some (.list element)) (alike : Alike m element v w) :
      Alike m type (.array (before ++ v :: after)) (.array (before ++ w :: after))
  | entry {type key value keyWire valueWire name : String}
      (before after : List (String × Json.Value)) {v w : Json.Value}
      (body : m.decoderBody? type = some (.map key value keyWire valueWire))
      (alike : Alike m value v w) :
      Alike m type (.object (before ++ (name, v) :: after)) (.object (before ++ (name, w) :: after))
  | member {type shape name : String} {fields : List FieldRead} {f : FieldRead}
      (before after : List (String × Json.Value)) {v w : Json.Value}
      (body : m.decoderBody? type = some (.struct shape fields)) (known : f ∈ fields)
      (part : f.isPart name) (alike : Alike m f.type v w) :
      Alike m type (.object (before ++ (name, v) :: after)) (.object (before ++ (name, w) :: after))
  | reordered {type shape : String} {fields : List FieldRead}
      (entries entries' : List (String × Json.Value))
      (body : m.decoderBody? type = some (.struct shape fields))
      (same : ∀ name, entries.filter (·.1 == name) = entries'.filter (·.1 == name)) :
      Alike m type (.object entries) (.object entries')
  | unknown {type shape : String} {fields : List FieldRead}
      (before after : List (String × Json.Value)) (name : String) (v : Json.Value)
      (body : m.decoderBody? type = some (.struct shape fields))
      (other : name ∉ Codec.bodyWires fields) :
      Alike m type (.object (before ++ after)) (.object (before ++ (name, v) :: after))
  | null {type shape : String} {fields : List FieldRead}
      (before after : List (String × Json.Value)) (name : String)
      (body : m.decoderBody? type = some (.struct shape fields))
      (fresh : name ∉ keys (before ++ after)) :
      Alike m type (.object (before ++ after)) (.object (before ++ (name, .null) :: after))
  | repeated {type shape : String} {fields : List FieldRead}
      (before after : List (String × Json.Value)) (name : String) (v : Json.Value)
      (body : m.decoderBody? type = some (.struct shape fields))
      (met : name ∈ keys before) :
      Alike m type (.object (before ++ after)) (.object (before ++ (name, v) :: after))

theorem Alike.isNull_eq {type : String} {v w : Json.Value} (alike : m.Alike type v w) :
    v.isNull = w.isNull := by
  induction alike with
  | refl => rfl
  | symm _ ih => exact ih.symm
  | trans _ _ ih ih' => exact ih.trans ih'
  | _ => rfl

/-- The members of each structure are found under names of their own. -/
def HasDistinctParts (m : Module) : Prop :=
  ∀ ⦃type shape fields⦄, m.decoderBody? type = some (.struct shape fields) →
    (Codec.bodyWires fields).Nodup

/-- What is read of two written values is decoded to the same values. -/
def DecodesAlike (m : Module) (headers : Headers) (type : String) (v w : Json.Value) : Prop :=
  ∀ field x, (m.decodeJson headers type field (settle firstMembers v)).run = some (.ok x) ↔
    (m.decodeJson headers type field (settle firstMembers w)).run = some (.ok x)

section Structures
variable {type shape : String} {fields : List FieldRead}
  (body : m.decoderBody? type = some (.struct shape fields)) (distinct : m.HasDistinctParts)
include body distinct

theorem decodesAlike_of_parts {entries entries' : List (String × Json.Value)}
    (parts : ∀ f ∈ fields, ∀ slot slot',
      m.FillsFrom headers f ((f.part? entries).map (settle firstMembers)) slot slot' ↔
        m.FillsFrom headers f ((f.part? entries').map (settle firstMembers)) slot slot') :
    m.DecodesAlike headers type (.object entries) (.object entries') := by
  have kept : ∀ (f : FieldRead) (entries : List (String × Json.Value)),
      f.part? (firstMembers (Json.Value.settleEntries firstMembers entries)) =
        (f.part? entries).map (settle firstMembers) := by
    intro f entries
    rw [FieldRead.part?, FieldRead.part?, Json.Value.present?_firstMembers]
    split <;> rfl
  have single : ∀ entries : List (String × Json.Value),
      (keys (firstMembers entries)).Nodup := fun entries =>
    (ascending_ofFirst strict_nameLt (sortable_nameLt entries)).imp fun {a b} less same => by
      rw [same, strict_nameLt.irrefl] at less
      cases less
  intro field x
  rw [settle, settle, decodeJson_struct body (distinct body) (single _),
    decodeJson_struct body (distinct body) (single _)]
  refine exists_congr fun slots => and_congr_left fun _ => ?_
  refine Slots.each_congr fun f mem slot slot' => ?_
  rw [kept, kept]
  exact parts f (Slots.map_start fields ▸ mem) slot slot'

theorem decodesAlike_of_present {entries entries' : List (String × Json.Value)}
    (same : ∀ wire ∈ Codec.bodyWires fields,
      Json.Value.present? entries wire = Json.Value.present? entries' wire) :
    m.DecodesAlike headers type (.object entries) (.object entries') := by
  refine decodesAlike_of_parts body distinct fun f mem slot slot' => ?_
  rw [FieldRead.part?_congr fun isBody => same f.wire (mem_bodyWires mem isBody)]

theorem decodesAlike_member {name : String} {f : FieldRead} (known : f ∈ fields)
    (part : f.isPart name) {v w : Json.Value} (null : v.isNull = w.isNull)
    (alike : m.DecodesAlike headers f.type v w) {before after : List (String × Json.Value)} :
    m.DecodesAlike headers type (.object (before ++ (name, v) :: after))
      (.object (before ++ (name, w) :: after)) := by
  refine decodesAlike_of_parts body distinct fun g mem slot slot' => ?_
  cases header : g.isHeader with
  | true => simp only [FieldRead.part?, header, if_true]
  | false =>
    simp only [FieldRead.part?, header, Bool.false_eq_true, if_false]
    rcases Json.Value.present?_member before after name g.wire with ⟨_, all⟩ | ⟨same, own⟩
    · rw [all v, all w]
    · obtain rfl : f = g :=
        eq_of_isPart (distinct body) known mem part (FieldRead.isPart_iff.mpr ⟨header, same⟩)
      rw [own v, own w, null]
      split
      · rfl
      · simp only [Option.map_some, FillsFrom]
        exact exists_congr fun x => and_congr_left fun _ => alike f.wire x

end Structures

theorem jsonItems_eq_ok {element field : String} {items : List Json.Value} {xs : List Value} :
    (m.jsonItems headers element field items).run = some (.ok xs) ↔
      List.Forall₂ (fun v x => (m.decodeJson headers element field v).run = some (.ok x))
        items xs := by
  induction items generalizing xs with
  | nil =>
    rw [jsonItems, Outcome.run_pure_eq_ok]
    cases xs <;> simp
  | cons v items ih =>
    simp only [jsonItems, Outcome.run_bind_eq_ok, ih, Outcome.run_pure_eq_ok]
    constructor
    · rintro ⟨x, first, rest, others, rfl⟩
      exact .cons first others
    · rintro (_ | ⟨first, others⟩)
      exact ⟨_, first, _, others, rfl⟩

theorem decodesAlike_item {type element : String}
    (body : m.decoderBody? type = some (.list element)) {v w : Json.Value}
    (alike : m.DecodesAlike headers element v w) {before after : List Json.Value} :
    m.DecodesAlike headers type (.array (before ++ v :: after))
      (.array (before ++ w :: after)) := by
  intro field x
  simp only [settle, Json.Value.settleItems_eq_map, decodeJson, body, Outcome.run_bind_eq_ok,
    jsonItems_eq_ok, List.forall₂_map_left_iff]
  refine exists_congr fun xs => and_congr_left fun _ => Sequence.forall₂_congr_left ?_
  exact Sequence.forall₂_of_middle (fun _ _ => Iff.rfl) (alike field) before after

theorem decodesAlike_entry {type key value keyWire valueWire name : String}
    (body : m.decoderBody? type = some (.map key value keyWire valueWire)) {v w : Json.Value}
    (alike : m.DecodesAlike headers value v w) {before after : List (String × Json.Value)} :
    m.DecodesAlike headers type (.object (before ++ (name, v) :: after))
      (.object (before ++ (name, w) :: after)) := by
  intro field x
  let same (v w : Json.Value) : Prop := ∀ x,
    (m.decodeJson headers value field v).run = some (.ok x) ↔
      (m.decodeJson headers value field w).run = some (.ok x)
  have written : List.Forall₂ (fun e e' => e.1 = e'.1 ∧ same e.2 e'.2)
      (Json.Value.settleEntries firstMembers (before ++ (name, v) :: after))
      (Json.Value.settleEntries firstMembers (before ++ (name, w) :: after)) := by
    rw [Json.Value.settleEntries_eq_map, Json.Value.settleEntries_eq_map,
      List.forall₂_map_left_iff, List.forall₂_map_right_iff]
    exact Sequence.forall₂_of_middle (fun _ => ⟨rfl, fun _ => Iff.rfl⟩) ⟨rfl, alike field⟩ _ _
  simp only [settle, decodeJson, body]
  cases m.scalarKind? key with
  | none => exact Iff.rfl
  | some kind =>
    simp only [Outcome.run_bind_eq_ok, jsonEntries_eq_ok]
    refine exists_congr fun pairs => and_congr_left fun _ => Sequence.forall₂_congr_left ?_
    exact (forall₂_ofFirst written).imp fun e e' same p => by rw [same.1, same.2]

/-- Values that are alike are decoded to the same values. -/
theorem Alike.decodesAlike (distinct : m.HasDistinctParts) {type : String} {v w : Json.Value}
    (alike : m.Alike type v w) : m.DecodesAlike headers type v w := by
  induction alike with
  | refl => exact fun _ _ => Iff.rfl
  | symm _ ih => exact fun field x => (ih field x).symm
  | trans _ _ ih ih' => exact fun field x => (ih field x).trans (ih' field x)
  | item _ _ body _ ih => exact decodesAlike_item body ih
  | entry _ _ body _ ih => exact decodesAlike_entry body ih
  | member _ _ body known part alike ih =>
    exact decodesAlike_member body distinct known part alike.isNull_eq ih
  | reordered _ _ body same =>
    refine decodesAlike_of_present body distinct fun wire _ => ?_
    rw [Json.Value.present?, Json.Value.present?, lookup_eq_head?_filter, lookup_eq_head?_filter,
      same wire]
  | unknown _ _ _ _ body other =>
    refine decodesAlike_of_present body distinct fun wire known => ?_
    exact (Json.Value.present?_of_other (ne_of_mem_of_not_mem known other)).symm
  | null _ _ _ body fresh =>
    exact decodesAlike_of_present body distinct fun _ _ => (Json.Value.present?_of_fresh fresh).symm
  | repeated _ _ _ _ body met =>
    exact decodesAlike_of_present body distinct fun _ _ => (Json.Value.present?_of_met met).symm

end Module
end ServiceClient.Codec
