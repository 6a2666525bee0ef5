import ServiceClient.Proofs.Data.SortedMap
import ServiceClient.Proofs.Wire.Request
import ServiceClient.Proofs.Wire.Substitution

/-! Tables after any puts. A table lists the names that were put, each once, in the order of their
first puts and with the value of its last put; no other table does. Both tables of a request are
such tables, whatever else is written to the request in between. -/

namespace ServiceClient.Wire
open Request (lastBound lastBound_concat)
open SortedMap (Ascending Strict keys keys_cons keys_concat lookup_eq_some_iff)

section Puts
variable {puts : List (String × String)} {put : String × String} {name other : String}

/-- The first put of `name` comes before that of `other`. -/
def earlier (puts : List (String × String)) (name other : String) : Bool :=
  (keys puts).idxOf name < (keys puts).idxOf other

theorem strict_earlier (puts : List (String × String)) : Strict (earlier puts) where
  irrefl _ := decide_eq_false (Nat.lt_irrefl _)
  trans _ _ _ less more :=
    decide_eq_true (Nat.lt_trans (of_decide_eq_true less) (of_decide_eq_true more))

theorem earlier_concat (here : name ∈ keys puts) (there : other ∈ keys puts) :
    earlier (puts ++ [put]) name other = earlier puts name other := by
  rw [earlier, keys_concat, List.idxOf_append_of_mem here, List.idxOf_append_of_mem there, earlier]

theorem earlier_concat_fresh (here : name ∈ keys puts) (fresh : other ∉ keys puts) :
    earlier (puts ++ [put]) name other = true := by
  rw [earlier, keys_concat, List.idxOf_append_of_mem here, List.idxOf_append_of_notMem fresh]
  exact decide_eq_true (Nat.lt_add_right _ (List.idxOf_lt_length_of_mem here))

theorem lastBound_eq_none_iff : lastBound puts name = none ↔ name ∉ keys puts := by
  rw [lastBound, Option.map_eq_none_iff, List.getLast?_eq_none_iff, List.filter_eq_nil_iff, keys,
    List.mem_map]
  simp only [beq_iff_eq, not_exists, not_and]

end Puts

namespace Table
variable {t : Table} {puts : List (String × String)}

theorem keys_put (t : Table) (name value : String) :
    keys (t.put name value) = if name ∈ keys t then keys t else keys t ++ [name] := by
  induction t with
  | nil => rfl
  | cons entry t ih =>
    obtain ⟨n, v⟩ := entry
    rw [put]
    by_cases met : n = name
    · simp [met]
    · rw [if_neg met, keys_cons, keys_cons, ih]
      split <;> simp_all [eq_comm]

/-- What these puts, one after the other, make of an empty table. -/
structure Keeps (t : Table) (puts : List (String × String)) : Prop where
  nodup : (keys t).Nodup
  mem_keys_iff : ∀ name, name ∈ keys t ↔ name ∈ keys puts
  order : Ascending (earlier puts) t
  mem_iff : ∀ name value, (name, value) ∈ t ↔ lastBound puts name = some value
  get?_eq : ∀ name, t.get? name = lastBound puts name
  get?_eq_none_iff : ∀ name, t.get? name = none ↔ name ∉ keys puts
  length_eq : t.length = (keys puts).toFinset.card

/-- All of this comes of the order of the names and of what is found under them. -/
theorem Keeps.of_order (order : Ascending (earlier puts) t)
    (found : ∀ name, t.get? name = lastBound puts name) : t.Keeps puts := by
  have nodup : (keys t).Nodup := order.nodup_keys (strict_earlier puts)
  have listed : ∀ name value, (name, value) ∈ t ↔ lastBound puts name = some value :=
    fun name value => by
      rw [← found, get?, lookup_eq_some_iff (strict_earlier puts) order]
  have names : ∀ name, name ∈ keys t ↔ name ∈ keys puts := fun name =>
    calc name ∈ keys t ↔ ∃ value, (name, value) ∈ t := by simp [keys]
      _ ↔ ∃ value, lastBound puts name = some value := exists_congr (listed name)
      _ ↔ lastBound puts name ≠ none := Option.ne_none_iff_exists'.symm
      _ ↔ name ∈ keys puts := lastBound_eq_none_iff.not_left
  refine ⟨nodup, names, order, listed, found, fun name => ?_, ?_⟩
  · rw [found, lastBound_eq_none_iff]
  · calc t.length = (keys t).length := (List.length_map _).symm
      _ = (keys t).toFinset.card := (List.toFinset_card_of_nodup nodup).symm
      _ = (keys puts).toFinset.card := by rw [List.toFinset.ext_iff.mpr names]

theorem keeps_nil : Keeps [] [] :=
  .of_order .nil fun _ => rfl

theorem Keeps.put (kept : t.Keeps puts) (name value : String) :
    (t.put name value).Keeps (puts ++ [(name, value)]) := by
  have known : ∀ {n}, n ∈ keys t → n ∈ keys puts := fun {n} => (kept.mem_keys_iff n).mp
  have before : Ascending (earlier (puts ++ [(name, value)])) t :=
    kept.order.imp_of_mem fun here there less => by rwa [earlier_concat (known here) (known there)]
  refine .of_order ?_ fun other => ?_
  · rw [Ascending, keys_put]
    split
    · exact before
    · rename_i fresh
      refine List.pairwise_append.mpr ⟨before, List.pairwise_singleton .., fun n mem m last => ?_⟩
      obtain rfl := List.mem_singleton.mp last
      exact earlier_concat_fresh (known mem) fun mem => fresh ((kept.mem_keys_iff m).mpr mem)
  · rw [get?_put, lastBound_concat, kept.get?_eq]

theorem Keeps.putAll (kept : t.Keeps puts) (more : List (String × String)) :
    (t.putAll more).Keeps (puts ++ more) := by
  induction more generalizing t puts with
  | nil => simpa [Table.putAll] using kept
  | cons first more ih =>
    rw [List.append_cons]
    exact ih (kept.put first.1 first.2)

/-- The puts leave no choice of the table. -/
theorem keeps_iff : t.Keeps puts ↔ t = putAll [] puts := by
  have made : (putAll [] puts).Keeps puts := keeps_nil.putAll puts
  refine ⟨fun kept => ?_, fun same => same ▸ made⟩
  exact kept.order.ext (strict_earlier puts) made.order fun (name, value) =>
    (kept.mem_iff name value).trans (made.mem_iff name value).symm

end Table

/-- The path parameter that a write sets. -/
def Write.pathParam? : Write → Option (String × String)
  | .pathParam name value => some (name, value)
  | _ => none

/-- The parameter that a write puts. -/
def Write.param? : Write → Option (String × String)
  | .param name value => some (name, value)
  | _ => none

namespace Request

theorem pathParams_of_writes (r : Request) (ws : List Write) :
    (r.writeAll ws).pathParams = r.pathParams.putAll (ws.filterMap Write.pathParam?) := by
  induction ws generalizing r with
  | nil => rfl
  | cons w ws ih => cases w <;> exact ih _

theorem params_of_writes (r : Request) (ws : List Write) :
    (r.writeAll ws).params = r.params.putAll (ws.filterMap Write.param?) := by
  induction ws generalizing r with
  | nil => rfl
  | cons w ws ih => cases w <;> exact ih _

/-- Parameters put on an empty table, and both tables of a request that has none yet. -/
theorem tables_keep_puts (puts : List (String × String)) (r : Request) (ws : List Write) :
    (Table.putAll [] puts).Keeps puts ∧
      let written := { r with pathParams := [], params := [] }.writeAll ws
      written.pathParams.Keeps (ws.filterMap Write.pathParam?) ∧
        written.params.Keeps (ws.filterMap Write.param?) := by
  refine ⟨Table.keeps_iff.mpr rfl, Table.keeps_iff.mpr ?_, Table.keeps_iff.mpr ?_⟩
  · exact pathParams_of_writes ..
  · exact params_of_writes ..

end Request
end ServiceClient.Wire
