import ServiceClient.Proofs.Json.Documents
import ServiceClient.Wire.ParseError

/-! What is kept of a JSON body. At every depth an object maps each of its names to the first value
that the text gives it. Where no name is repeated, that is what the usual reader makes of the text,
which lets a later member replace an earlier one. -/

namespace ServiceClient.Json.Value
open ServiceClient.SortedMap ServiceClient.Wire

/-- A value in which every object maps its names to what is kept of the first value that each has,
and has no other names. -/
inductive Reduced : Value → Value → Prop
  | null : Reduced .null .null
  | bool (b : Bool) : Reduced (.bool b) (.bool b)
  | number (n : Numeral) : Reduced (.number n) (.number n)
  | string (s : String) : Reduced (.string s) (.string s)
  | array {items kept : List Value} (same : items.length = kept.length)
      (each : ∀ p ∈ items.zip kept, Reduced p.1 p.2) : Reduced (.array items) (.array kept)
  | object {entries kept : List (String × Value)} (ascending : Ascending nameLt kept)
      (names : ∀ name, name ∈ keys kept ↔ name ∈ keys entries)
      (first : ∀ name v w, entries.lookup name = some v → kept.lookup name = some w →
        Reduced v w) : Reduced (.object entries) (.object kept)

/-- A value in which no object repeats a name. -/
inductive Distinct : Value → Prop
  | null : Distinct .null
  | bool (b : Bool) : Distinct (.bool b)
  | number (n : Numeral) : Distinct (.number n)
  | string (s : String) : Distinct (.string s)
  | array {items : List Value} (each : ∀ v ∈ items, Distinct v) : Distinct (.array items)
  | object {entries : List (String × Value)} (names : (keys entries).Nodup)
      (each : ∀ e ∈ entries, Distinct e.2) : Distinct (.object entries)

/-- What the usual reader keeps of an object: the last member of every name, in the order of
names. -/
abbrev lastMembers (entries : List (String × Value)) : List (String × Value) :=
  ofLast nameLt entries

/-- The usual reader of JSON values. -/
def usual : Reader Value := fun t =>
  (written maxDepth t).map (settle lastMembers)

/-! Keeping the first members reduces a value, and nothing else does. -/

mutual

theorem reduced_settle : (v : Value) → Reduced v (settle firstMembers v)
  | .null => .null
  | .bool b => .bool b
  | .number n => .number n
  | .string s => .string s
  | .array items => by
    rw [settle]
    exact .array (by rw [settleItems_eq_map, List.length_map]) (reduced_settleItems items)
  | .object entries => by
    rw [settle]
    have each := reduced_settleEntries entries
    refine .object (ascending_ofFirst strict_nameLt (sortable_nameLt _)) (fun name => ?_)
      fun name v w own kept => ?_
    · rw [mem_keys_ofFirst (sortable_nameLt _), settleEntries_eq_map]
      simp [keys]
    · rw [lookup_ofFirst strict_nameLt (sortable_nameLt _), lookup_settleEntries, own] at kept
      obtain ⟨before, after, whole, -⟩ := List.lookup_eq_some_iff.mp own
      have mem : (name, v) ∈ entries := by simp [whole]
      exact Option.some.inj kept ▸ each (name, v) mem

theorem reduced_settleItems : (items : List Value) →
    ∀ p ∈ items.zip (settleItems firstMembers items), Reduced p.1 p.2
  | [] => nofun
  | v :: items => by
    rw [settleItems, List.zip_cons_cons, List.forall_mem_cons]
    exact ⟨reduced_settle v, reduced_settleItems items⟩

theorem reduced_settleEntries : (entries : List (String × Value)) →
    ∀ e ∈ entries, Reduced e.2 (settle firstMembers e.2)
  | [] => nofun
  | (_, v) :: entries => by
    rw [List.forall_mem_cons]
    exact ⟨reduced_settle v, reduced_settleEntries entries⟩

end

theorem Reduced.eq {v w : Value} (reduced : Reduced v w) : w = settle firstMembers v := by
  induction reduced with
  | null | bool | number | string => rfl
  | @array items kept same each ih =>
    rw [settle, settleItems_eq_map]
    congr 1
    refine List.ext_getElem (by rw [List.length_map, same]) fun i here there => ?_
    rw [List.length_map] at there
    have pair : (items.zip kept)[i]? = some (items[i], kept[i]) :=
      List.getElem?_zip_eq_some.mpr
        ⟨List.getElem?_eq_getElem there, List.getElem?_eq_getElem here⟩
    rw [List.getElem_map]
    exact ih _ (List.mem_of_getElem? pair)
  | @object entries kept ascending names first ih =>
    rw [settle]
    congr 1
    have looked : ∀ name, kept.lookup name = (entries.lookup name).map (settle firstMembers) := by
      intro name
      cases own : entries.lookup name with
      | none =>
        refine lookup_eq_none_of_not_mem fun here => ?_
        have found := lookup_isSome_of_mem ((names name).mp here)
        rw [own] at found
        cases found
      | some v =>
        have here : name ∈ keys entries := by
          by_contra absent
          cases own.symm.trans (lookup_eq_none_of_not_mem absent)
        obtain ⟨w, found⟩ :=
          Option.isSome_iff_exists.mp (lookup_isSome_of_mem ((names name).mpr here))
        rw [found, ih name v w own found, Option.map_some]
    refine Ascending.ext strict_nameLt ascending
      (ascending_ofFirst strict_nameLt (sortable_nameLt _)) fun (name, w) => ?_
    rw [← lookup_eq_some_iff strict_nameLt ascending, mem_ofFirst strict_nameLt (sortable_nameLt _),
      lookup_settleEntries, looked]

theorem Distinct.settle_eq {v : Value} (distinct : Distinct v) :
    settle lastMembers v = settle firstMembers v := by
  induction distinct with
  | null | bool | number | string => rfl
  | array each ih =>
    rw [settle, settle, settleItems_eq_map, settleItems_eq_map, List.map_congr_left ih]
  | @object entries names each ih =>
    have values : settleEntries lastMembers entries = settleEntries firstMembers entries := by
      rw [settleEntries_eq_map, settleEntries_eq_map]
      exact List.map_congr_left fun e mem => by rw [ih e mem]
    have same : keys (settleEntries firstMembers entries) = keys entries := by
      rw [settleEntries_eq_map]
      simp [keys]
    rw [settle, settle, values, lastMembers,
      ofLast_eq_ofFirst strict_nameLt (sortable_nameLt _) (same ▸ names)]

/-- A body of white space alone, form feeds included. -/
def IsBlankBody (bytes : List UInt8) : Prop :=
  ∀ b ∈ bytes, b = 0x20 ∨ b = 9 ∨ b = 10 ∨ b = 12 ∨ b = 13

theorem ofBody_eq_readBytes {bytes : List UInt8} (filled : ¬IsBlankBody bytes) :
    ofBody bytes = (readBytes (written maxDepth) bytes).map (settle firstMembers) := by
  rw [ofBody_eq, writtenBody, if_neg]
  intro blank
  refine filled fun b mem => ?_
  simpa [or_assoc] using List.all_eq_true.mp blank b mem

theorem readBytes_usual (bytes : List UInt8) :
    readBytes usual bytes = (readBytes (written maxDepth) bytes).map (settle lastMembers) := by
  simp only [readBytes, Source.read, usual]
  cases written maxDepth (Source.ofBytes bytes).tree with
  | error e => rfl
  | ok v =>
    simp only [Except.map, bind, Except.bind]
    split <;> rfl

/-- A body that is not blank is read exactly if it is a text of the grammar, and to what is kept of
the value that it writes. The usual reader takes the same bodies; where no name is repeated, the two
agree. -/
theorem ofBody_keeps_first {bytes : List UInt8} (filled : ¬IsBlankBody bytes) :
    let read := (ofBody bytes).mapError fun _ => ParseError.malformedJson
    (∀ doc, Writes bytes doc → ∃ v w, read = .ok v ∧ (∀ u, Reduced doc u ↔ u = v) ∧
      readBytes usual bytes = .ok w ∧ (Distinct doc → v = w)) ∧
    ((∀ doc, ¬Writes bytes doc) →
      read = .error .malformedJson ∧ ∃ e, readBytes usual bytes = .error e) := by
  intro read
  refine ⟨fun doc writes => ?_, fun foreign => ?_⟩
  · have written := readBytes_written_eq_ok.mpr writes
    refine ⟨settle firstMembers doc, settle lastMembers doc, ?_, fun u => ?_, ?_,
      fun distinct => ?_⟩
    · simp only [read, ofBody_eq_readBytes filled, written]
      rfl
    · exact ⟨Reduced.eq, fun same => same ▸ reduced_settle doc⟩
    · rw [readBytes_usual, written]
      rfl
    · exact distinct.settle_eq.symm
  · obtain ⟨e, fault⟩ : ∃ e, readBytes (written maxDepth) bytes = .error e := by
      cases made : readBytes (written maxDepth) bytes with
      | error e => exact ⟨e, rfl⟩
      | ok doc => cases foreign doc (readBytes_written_eq_ok.mp made)
    refine ⟨?_, e, ?_⟩
    · simp only [read, ofBody_eq_readBytes filled, fault]
      rfl
    · rw [readBytes_usual, fault]
      rfl

/-- The text `{"a":[{"n":1,"n":2}],"b":null,"a":3}`. -/
def repeatsBody : List UInt8 :=
  [123, 34, 97, 34, 58, 91, 123, 34, 110, 34, 58, 49, 44, 34, 110, 34, 58, 50, 125, 93, 44, 34, 98,
    34, 58, 110, 117, 108, 108, 44, 34, 97, 34, 58, 51, 125]

def repeatsValue : Value :=
  .object [("a", .array [.object [("n", .number (.int 1)), ("n", .number (.int 2))]]),
    ("b", .null), ("a", .number (.int 3))]

theorem repeatsBody_kept : ¬IsBlankBody repeatsBody ∧ Writes repeatsBody repeatsValue ∧
    ∃ v w, (ofBody repeatsBody).mapError (fun _ => ParseError.malformedJson) = .ok v ∧
      (∀ u, Reduced repeatsValue u ↔ u = v) ∧ readBytes usual repeatsBody = .ok w ∧
      v = .object [("a", .array [.object [("n", .number (.int 1))]]), ("b", .null)] ∧
      w = .object [("a", .number (.int 3)), ("b", .null)] := by
  have filled : ¬IsBlankBody repeatsBody := by
    intro blank
    have first := blank 123 List.mem_cons_self
    revert first
    decide
  have writes : Writes repeatsBody repeatsValue := readBytes_written_eq_ok.mp rfl
  obtain ⟨v, w, read, reduced, last, -⟩ := (ofBody_keeps_first filled).1 repeatsValue writes
  refine ⟨filled, writes, v, w, read, reduced, last, ?_, ?_⟩
  · exact ((reduced _).mp (reduced_settle repeatsValue)).symm
  · cases last
    rfl

end ServiceClient.Json.Value
