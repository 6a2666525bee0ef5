import ServiceClient.Codec.FromJson
import ServiceClient.Proofs.Data.Sequence
import ServiceClient.Proofs.Wire.Scalar

/-! Maps in JSON. The names of an object are kept once each and in order before any of them is read
as a key, so that among names spelt differently for one key the least one counts, wherever it stands
in the document. -/

namespace ServiceClient.Json.Value
open ServiceClient.Sequence

/-- An object is a map of the members that the document has. -/
theorem members_of_ofTree {depth : Nat} {entries : List (Spelling × Tree)} {close : Option Fault}
    {v : Value} (read : ofTree depth (.object entries close) = .ok v) :
    ∃ written, ofEntries (depth - 1) entries = .ok written ∧
      v = .object (SortedMap.ofFirst SortedMap.nameLt written) := by
  rw [ofTree] at read
  split at read
  · cases read
  · obtain ⟨written, members, read⟩ := bind_eq_ok.mp read
    obtain ⟨-, made⟩ := then_eq_ok.mp read
    exact ⟨written, members, (Except.ok.inj made).symm⟩

end ServiceClient.Json.Value

namespace ServiceClient.Codec
open ServiceClient.Schema ServiceClient.Wire ServiceClient.SortedMap

namespace Outcome
variable {α β : Type}

theorem run_bind_eq_ok {x : Outcome α} {f : α → Outcome β} {b : β} :
    (x >>= f).run = some (.ok b) ↔ ∃ a, x.run = some (.ok a) ∧ (f a).run = some (.ok b) := by
  simp only [ExceptT.run, bind, ExceptT.bind, ExceptT.mk]
  cases first : x with
  | none => simp
  | some r => cases r <;> simp [ExceptT.bindCont, pure]

theorem run_pure_eq_ok {a b : α} : (pure a : Outcome α).run = some (.ok b) ↔ a = b := by
  simp [pure, ExceptT.pure, ExceptT.run, ExceptT.mk]

theorem run_ofExcept_eq_ok {r : Except ParseError α} {a : α} :
    (ofExcept r).run = some (.ok a) ↔ r = .ok a :=
  Option.some_inj

end Outcome

namespace Module
variable {m : Module} {headers : Headers} {kind : PrimitiveKind} {value field : String}

/-- The first member, in the order of the document, whose name is read as the key. -/
def FirstFor (kind : PrimitiveKind) (field : String) (k : Scalar)
    (written : List (String × Json.Value)) (member : String × Json.Value) : Prop :=
  ∃ before after, written = before ++ member :: after ∧
    Scalar.ofText kind field member.1 = .ok k ∧
    ∀ w ∈ before, Scalar.ofText kind field w.1 ≠ .ok k

/-- What a map holds that is made of the members of an object. -/
structure MadeOf (m : Module) (headers : Headers) (kind : PrimitiveKind) (value field : String)
    (written : List (String × Json.Value)) (pairs : List (Scalar × Value)) : Prop where
  ascending : Ascending Scalar.lt pairs
  keys : ∀ k, k ∈ keys pairs ↔ ∃ name ∈ keys written, Scalar.ofText kind field name = .ok k
  /-- The first member of the least name counts. -/
  least : ∀ k x, (k, x) ∈ pairs → ∃ name v, Scalar.ofText kind field name = .ok k ∧
    written.lookup name = some v ∧
    (∀ other ∈ SortedMap.keys written, Scalar.ofText kind field other = .ok k → name ≤ other) ∧
    (m.decodeJson headers value field v).run = some (.ok x)

theorem jsonEntries_eq_ok {entries : List (String × Json.Value)} {pairs : List (Scalar × Value)} :
    (m.jsonEntries headers kind value field entries).run = some (.ok pairs) ↔
      List.Forall₂ (fun e p => Scalar.ofText kind field e.1 = .ok p.1 ∧
        (m.decodeJson headers value field e.2).run = some (.ok p.2)) entries pairs := by
  induction entries generalizing pairs with
  | nil =>
    rw [jsonEntries, Outcome.run_pure_eq_ok]
    cases pairs <;> simp
  | cons e entries ih =>
    obtain ⟨name, v⟩ := e
    simp only [jsonEntries, Outcome.run_bind_eq_ok, ih, Outcome.run_pure_eq_ok,
      Outcome.run_ofExcept_eq_ok]
    constructor
    · rintro ⟨k, key, x, decoded, rest, others, rfl⟩
      exact .cons ⟨key, decoded⟩ others
    · rintro (_ | ⟨⟨key, decoded⟩, others⟩)
      exact ⟨_, key, _, decoded, _, others, rfl⟩

section Entries
variable {entries : List (String × Json.Value)} {pairs : List (Scalar × Value)}
  (decoded : List.Forall₂ (fun e p => Scalar.ofText kind field e.1 = .ok p.1 ∧
    (m.decodeJson headers value field e.2).run = some (.ok p.2)) entries pairs)
include decoded

theorem sortable_of_decoded (orderable : kind.isOrderable) : Sortable Scalar.lt pairs := by
  intro a here b there
  obtain ⟨p, mem, rfl⟩ := List.mem_map.mp here
  obtain ⟨q, mem', rfl⟩ := List.mem_map.mp there
  obtain ⟨_, _, first, -⟩ := Sequence.exists_mem_left decoded mem
  obtain ⟨_, _, second, -⟩ := Sequence.exists_mem_left decoded mem'
  exact Scalar.comparable_ofText orderable first second

theorem mem_keys_of_decoded {k : Scalar} :
    k ∈ keys pairs ↔ ∃ name ∈ keys entries, Scalar.ofText kind field name = .ok k := by
  constructor
  · intro here
    obtain ⟨p, mem, rfl⟩ := List.mem_map.mp here
    obtain ⟨e, there, key, -⟩ := Sequence.exists_mem_left decoded mem
    exact ⟨e.1, List.mem_map_of_mem there, key⟩
  · rintro ⟨name, here, key⟩
    obtain ⟨e, mem, rfl⟩ := List.mem_map.mp here
    obtain ⟨p, there, key', -⟩ := Sequence.exists_mem_left decoded.flip mem
    obtain rfl : k = p.1 := Except.ok.inj (key.symm.trans key')
    exact List.mem_map_of_mem there

/-- The first value under a key was decoded from the first entry with the key. -/
theorem exists_of_lookup {k : Scalar} {x : Value} (found : pairs.lookup k = some x) :
    ∃ before e after, entries = before ++ e :: after ∧ Scalar.ofText kind field e.1 = .ok k ∧
      (m.decodeJson headers value field e.2).run = some (.ok x) ∧
      ∀ b ∈ before, Scalar.ofText kind field b.1 ≠ .ok k := by
  induction decoded with
  | nil => cases found
  | @cons e p entries pairs first rest ih =>
    obtain ⟨key, value⟩ := first
    rw [List.lookup_cons] at found
    by_cases same : k = p.1
    · subst same
      simp only [beq_self_eq_true, Option.some.injEq] at found
      exact ⟨[], e, entries, rfl, key, found ▸ value, nofun⟩
    · rw [beq_eq_false_iff_ne.mpr same] at found
      obtain ⟨before, e', after, rfl, key', value', fresh⟩ := ih found
      refine ⟨e :: before, e', after, rfl, key', value', List.forall_mem_cons.mpr ⟨?_, fresh⟩⟩
      rw [key]
      exact fun other => same (Except.ok.inj other).symm

end Entries

theorem madeOf_ofFirst (orderable : kind.isOrderable) {written : List (String × Json.Value)}
    {pairs : List (Scalar × Value)}
    (decoded : (m.jsonEntries headers kind value field (ofFirst nameLt written)).run =
      some (.ok pairs)) :
    m.MadeOf headers kind value field written (ofFirst Scalar.lt pairs) := by
  rw [jsonEntries_eq_ok] at decoded
  have sortable := sortable_of_decoded decoded orderable
  have names := sortable_nameLt written
  have listed : ∀ name, name ∈ keys (ofFirst nameLt written) ↔ name ∈ keys written :=
    fun _ => mem_keys_ofFirst names
  refine ⟨ascending_ofFirst Scalar.strict_lt sortable, fun k => ?_, fun k x mem => ?_⟩
  · simp only [mem_keys_ofFirst sortable, mem_keys_of_decoded decoded, listed]
  · rw [mem_ofFirst Scalar.strict_lt sortable] at mem
    obtain ⟨before, e, after, split, key, value, fresh⟩ := exists_of_lookup decoded mem
    have here : (e.1, e.2) ∈ ofFirst nameLt written := by simp [split]
    have found := (mem_ofFirst strict_nameLt names).mp here
    refine ⟨e.1, e.2, key, found, fun other mem key' => ?_, value⟩
    have ascending := ascending_ofFirst strict_nameLt names
    rw [Ascending, split, keys, List.map_append, List.map_cons, List.pairwise_append,
      List.pairwise_cons] at ascending
    obtain ⟨w, there, rfl⟩ := List.mem_map.mp ((listed other).mpr mem)
    rw [split, List.mem_append, List.mem_cons] at there
    rcases there with there | rfl | there
    · exact absurd key' (fresh w there)
    · exact String.le_refl _
    · have less : e.1 < w.1 := by
        simpa [nameLt] using ascending.2.1.1 w.1 (List.mem_map_of_mem there)
      exact String.not_lt.mp (String.lt_asymm less)

/-- Where the first member for a key has the least name for it, the map has that member's value. -/
theorem value_of_firstFor {written : List (String × Json.Value)}
    {pairs : List (Scalar × Value)} (made : m.MadeOf headers kind value field written pairs)
    {k : Scalar} {x : Value} (mem : (k, x) ∈ pairs) {member : String × Json.Value}
    (first : FirstFor kind field k written member)
    (least : ∀ name ∈ keys written, Scalar.ofText kind field name = .ok k → member.1 ≤ name) :
    (m.decodeJson headers value field member.2).run = some (.ok x) := by
  obtain ⟨name, v, key, found, smallest, decoded⟩ := made.least k x mem
  obtain ⟨before, after, rfl, own, fresh⟩ := first
  have here : name ∈ keys (before ++ member :: after) := by
    by_contra absent
    have none : (before ++ member :: after).lookup name = none :=
      List.lookup_eq_none_iff.mpr fun w mem => bne_iff_ne.mpr fun same =>
        absent (same ▸ List.mem_map_of_mem mem)
    simp [none] at found
  have there : member.1 ∈ keys (before ++ member :: after) := by simp [keys]
  obtain rfl : member.1 = name := String.le_antisymm (least name here key) (smallest _ there own)
  have passed : before.lookup member.1 = none :=
    List.lookup_eq_none_iff.mpr fun w mem => bne_iff_ne.mpr fun same =>
      fresh w mem (same ▸ own)
  rw [List.lookup_append, passed, Option.none_or, List.lookup_cons, beq_self_eq_true] at found
  obtain rfl : member.2 = v := Option.some.inj found
  exact decoded

/-- What the decoder of a map type makes of any object of a document. The value under a key is that
of the first member in document order where no other name for the key comes before its own; keys
that are text have one name each. -/
def DecodesMaps (m : Module) (type : String) (kind : PrimitiveKind) (value : String) : Prop :=
  ∀ ⦃headers field depth entries close object decoded⦄,
    Json.Value.ofTree depth (.object entries close) = .ok object →
    (m.decodeJson headers type field object).run = some (.ok decoded) →
    ∃ written pairs, Json.Value.ofEntries (depth - 1) entries = .ok written ∧
      decoded = .map pairs ∧ m.MadeOf headers kind value field written pairs ∧
      ∀ k x member, (k, x) ∈ pairs → FirstFor kind field k written member →
        (kind = .string ∨ kind = .timestamp ∨ ∀ name ∈ keys written,
          Scalar.ofText kind field name = .ok k → member.1 ≤ name) →
        (m.decodeJson headers value field member.2).run = some (.ok x)

theorem decodesMaps {type key keyWire valueWire : String}
    (body : m.decoderBody? type = some (.map key value keyWire valueWire))
    (keyed : m.scalarKind? key = some kind) (orderable : kind.isOrderable) :
    m.DecodesMaps type kind value := by
  intro headers field depth entries close object decoded read ran
  obtain ⟨written, members, rfl⟩ := Json.Value.members_of_ofTree read
  simp only [decodeJson, body, keyed, Outcome.run_bind_eq_ok, Outcome.run_pure_eq_ok] at ran
  obtain ⟨pairs, ran, rfl⟩ := ran
  have made := madeOf_ofFirst orderable ran
  refine ⟨written, _, members, rfl, made, fun k x member mem first names => ?_⟩
  refine value_of_firstFor made mem first fun name here own => ?_
  have same : kind = .string ∨ kind = .timestamp → member.1 = name := by
    intro verbatim
    obtain ⟨_, _, -, key, -⟩ := first
    rw [Scalar.ofText_text verbatim] at key own
    cases key
    cases own
    rfl
  rcases names with string | timestamp | least
  · exact same (.inl string) ▸ String.le_refl _
  · exact same (.inr timestamp) ▸ String.le_refl _
  · exact least name here own

end Module
end ServiceClient.Codec
