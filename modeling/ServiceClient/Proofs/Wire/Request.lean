import ServiceClient.Wire.Request
import Mathlib.Data.List.Induction
import Mathlib.Data.List.Nodup

/-! Parameters of different names, written one after the other, are the table in that order. A
parameter holds what was written to it last, and those of other names stay where they are. -/

namespace ServiceClient.Wire

theorem Table.put_of_not_mem {name : String} (value : String) {t : Table}
    (fresh : name ∉ t.map (·.1)) : Table.put name value t = t ++ [(name, value)] := by
  induction t with
  | nil => rfl
  | cons entry t ih =>
    simp only [List.map_cons, List.mem_cons, not_or] at fresh
    simp [put, Ne.symm fresh.1, ih fresh.2]

theorem Request.params_writeAll {r : Request} {t : Table}
    (distinct : ((r.params ++ t).map (·.1)).Nodup) :
    (r.writeAll (t.map fun entry => .param entry.1 entry.2)).params = r.params ++ t := by
  induction t generalizing r with
  | nil => simp [writeAll]
  | cons entry t ih =>
    have fresh : entry.1 ∉ r.params.map (·.1) := by
      rw [List.map_append, List.nodup_append] at distinct
      exact fun mem => distinct.2.2 _ mem _ (List.mem_map_of_mem List.mem_cons_self) rfl
    have put : (r.putParam entry.1 entry.2).params = r.params ++ [entry] :=
      Table.put_of_not_mem entry.2 fresh
    have later := ih (r := r.putParam entry.1 entry.2) (by rw [put]; simpa using distinct)
    rw [put, List.append_assoc, List.singleton_append] at later
    exact later

theorem Table.get?_cons (name value : String) (t : Table) (other : String) :
    get? ((name, value) :: t) other = if other = name then some value else get? t other := by
  rw [get?, List.lookup_cons]
  split <;> simp_all [get?]

theorem Table.get?_put (t : Table) (name value other : String) :
    (t.put name value).get? other = if other = name then some value else t.get? other := by
  induction t with
  | nil => exact get?_cons name value [] other
  | cons entry t ih =>
    obtain ⟨n, v⟩ := entry
    rw [put]
    split
    · rename_i met
      rw [get?_cons, get?_cons, met]
      split <;> rfl
    · rename_i apart
      rw [get?_cons, get?_cons, ih]
      by_cases same : other = n
      · rw [if_pos same, if_pos same, if_neg (same ▸ apart)]
      · rw [if_neg same, if_neg same]

namespace Table

/-- Puts all entries of `u` in turn. -/
def putAll (t u : Table) : Table :=
  u.foldl (fun t e => t.put e.1 e.2) t

/-- The table with other names, in the same order. -/
def rename (f : String → String) (t : Table) : Table :=
  t.map fun e => (f e.1, e.2)

section Entries
variable {t u : Table} {i : Nat} {e : String × String} {name : String}

/-- Entries of other names stay in their places. -/
theorem getElem?_put (here : t[i]? = some e) (other : name ≠ e.1) (value : String) :
    (t.put name value)[i]? = some e := by
  induction t generalizing i with
  | nil => cases here
  | cons first t ih =>
    obtain ⟨n, v⟩ := first
    rw [put]
    cases i with
    | zero =>
      obtain rfl : (n, v) = e := Option.some.inj here
      rw [if_neg (Ne.symm other)]
      rfl
    | succ i =>
      split
      · exact here
      · exact ih here

theorem getElem?_putAll (here : t[i]? = some e) (others : ∀ e' ∈ u, e'.1 ≠ e.1) :
    (t.putAll u)[i]? = some e := by
  induction u generalizing t with
  | nil => exact here
  | cons first u ih =>
    obtain ⟨other, others⟩ := List.forall_mem_cons.mp others
    exact ih (getElem?_put here other first.2) others

theorem rename_put {f : String → String} (injective : Function.Injective f) (t : Table)
    (name value : String) : (t.put name value).rename f = (t.rename f).put (f name) value := by
  induction t with
  | nil => rfl
  | cons first t ih =>
    obtain ⟨n, v⟩ := first
    change rename f (put name value ((n, v) :: t)) = put (f name) value ((f n, v) :: rename f t)
    rw [put, put, ← ih]
    by_cases met : n = name
    · rw [if_pos met, if_pos (congrArg f met)]
      rfl
    · rw [if_neg met, if_neg (injective.ne met)]
      rfl

theorem rename_putAll {f : String → String} (injective : Function.Injective f) (t u : Table) :
    (t.putAll u).rename f = (t.rename f).putAll (u.rename f) := by
  induction u generalizing t with
  | nil => rfl
  | cons first u ih =>
    change rename f (putAll (t.put first.1 first.2) u) =
      putAll ((t.rename f).put (f first.1) first.2) (rename f u)
    rw [ih, rename_put injective]

end Entries
end Table

/-- Writing parameters leaves the rest of a request as it is. -/
theorem Request.writeAll_params (r : Request) (t : Table) :
    r.writeAll (t.map fun entry => .param entry.1 entry.2) =
      { r with params := r.params.putAll t } := by
  induction t generalizing r with
  | nil => rfl
  | cons entry t ih => exact ih (r.putParam entry.1 entry.2)

/-- A parameter holds what was written to it last, and what it held before where nothing was. -/
theorem Request.get?_writeAll (r : Request) (ws : List Write) (name : String) :
    (∃ value, .param name value ∈ ws ∧ (r.writeAll ws).params.get? name = some value) ∨
      (∀ value, .param name value ∉ ws) ∧
        (r.writeAll ws).params.get? name = r.params.get? name := by
  induction ws using List.reverseRecOn with
  | nil => exact .inr ⟨by simp, rfl⟩
  | append_singleton ws w ih =>
    have last : r.writeAll (ws ++ [w]) = (r.writeAll ws).write w := by
      rw [writeAll, List.foldl_append]
      rfl
    have kept : (∀ value, w ≠ .param name value) →
        ((r.writeAll ws).write w).params.get? name = (r.writeAll ws).params.get? name := by
      intro other
      cases w with
      | param n value =>
        have apart : name ≠ n := by
          rintro rfl
          exact other value rfl
        exact (Table.get?_put ..).trans (if_neg apart)
      | header | pathParam | payload => rfl
    rw [last]
    by_cases written : ∃ value, w = .param name value
    · obtain ⟨value, rfl⟩ := written
      exact .inl ⟨value, by simp, (Table.get?_put ..).trans (if_pos rfl)⟩
    · rw [not_exists] at written
      rw [kept written]
      rcases ih with ⟨value, mem, held⟩ | ⟨none, held⟩
      · exact .inl ⟨value, List.mem_append_left _ mem, held⟩
      · refine .inr ⟨fun value mem => ?_, held⟩
        rcases List.mem_append.mp mem with mem | mem
        · exact none value mem
        · exact written value (List.mem_singleton.mp mem).symm

end ServiceClient.Wire
