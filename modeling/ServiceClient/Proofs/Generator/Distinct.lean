import ServiceClient.Generator.Validation
import ServiceClient.Proofs.Data.Sequence

/-! Names that pass the checks for collisions: each one is resolved, and no two are the same. Where
such a check fails, one of them is not resolved or two are the same. -/

namespace ServiceClient.Generator
open ServiceClient.Schema ServiceClient.Sequence

/-- A resolved name that is not claimed yet goes in front of others that are apart from it. -/
theorem exists_names_cons {owners : List (String × String)} {name owner : String}
    {rest : List (Except Error String)} (fresh : owners.lookup name = none)
    (h : ∃ names : List String, rest = names.map .ok ∧ names.Nodup ∧
      ∀ other ∈ names, other ∉ ((name, owner) :: owners).map (·.1)) :
    ∃ names : List String, .ok name :: rest = names.map .ok ∧ names.Nodup ∧
      ∀ other ∈ names, other ∉ owners.map (·.1) := by
  obtain ⟨names, resolved, distinct, apart⟩ := h
  have unclaimed : name ∉ names := fun mem => apart name mem (by simp)
  refine ⟨name :: names, by simp [resolved], List.nodup_cons.mpr ⟨unclaimed, distinct⟩, ?_⟩
  rw [List.lookup_eq_none_iff] at fresh
  simp only [List.map_cons, List.mem_cons, not_or] at apart
  rintro other (_ | ⟨_, mem⟩) claimed
  · obtain ⟨p, mem, rfl⟩ := List.mem_map.mp claimed
    simpa using fresh p mem
  · exact (apart other mem).2 claimed

/-- The names of entries that are all resolved are pairwise different and none is claimed before. -/
theorem claimNames_eq_ok {collision : String → String → String → Error}
    {owners : List (String × String)} {entries : List (Except Error String × String)}
    (h : claimNames collision owners entries = .ok ()) :
    ∃ names : List String, entries.map (·.1) = names.map .ok ∧ names.Nodup ∧
      ∀ name ∈ names, name ∉ owners.map (·.1) := by
  induction entries generalizing owners with
  | nil => exact ⟨[], rfl, List.nodup_nil, by simp⟩
  | cons entry entries ih =>
    obtain ⟨name, owner⟩ := entry
    simp only [claimNames, bind_eq_ok] at h
    obtain ⟨name, rfl, h⟩ := h
    split at h
    · cases h
    · rename_i fresh
      exact exists_names_cons fresh (ih h)

theorem exists_name_of_claimNames {collision : String → String → String → Error}
    {owners : List (String × String)} {entries : List (Except Error String × String)}
    (h : claimNames collision owners entries = .ok ()) {resolution : Except Error String}
    {owner : String} (mem : (resolution, owner) ∈ entries) : ∃ name, resolution = .ok name := by
  obtain ⟨names, resolved, -⟩ := claimNames_eq_ok h
  have first : resolution ∈ entries.map (·.1) := List.mem_map_of_mem mem
  have here : resolution ∈ names.map Except.ok := resolved ▸ first
  obtain ⟨name, -, same⟩ := List.mem_map.mp here
  exact ⟨name, same.symm⟩

/-- A check fails at an entry without a name, or at the second of two with the same. -/
theorem claimNames_eq_error {α : Type} {collision : String → String → String → Error}
    {label : α → String} {claimed : List (String × α)} {entries : List (Except Error String × α)}
    {e : Error}
    (h : claimNames collision (claimed.map fun p => (p.1, label p.2))
      (entries.map fun p => (p.1, label p.2)) = .error e) :
    (∃ a, (.error e, a) ∈ entries) ∨ ∃ a b name, e = collision (label a) (label b) name ∧
      [(Except.ok name, a), (.ok name, b)].Sublist
        ((claimed.map fun p => (.ok p.1, p.2)).reverse ++ entries) := by
  induction entries generalizing claimed with
  | nil => cases h
  | cons entry entries ih =>
    obtain ⟨resolution, owner⟩ := entry
    simp only [List.map_cons, claimNames, bind_eq_error] at h
    rcases h with rfl | ⟨name, rfl, h⟩
    · exact .inl ⟨owner, List.mem_cons_self⟩
    split at h
    · rename_i first earlier
      cases h
      obtain ⟨before, after, whole, -⟩ := List.lookup_eq_some_iff.mp earlier
      have here : (name, first) ∈ claimed.map fun p => (p.1, label p.2) := by simp [whole]
      obtain ⟨⟨name, a⟩, mem, ⟨⟩⟩ := List.mem_map.mp here
      have claims : ((.ok name, a) : Except Error String × α) ∈
          (claimed.map fun p => (.ok p.1, p.2)).reverse :=
        List.mem_reverse.mpr (List.mem_map_of_mem mem)
      exact .inr ⟨a, owner, name, rfl, (List.singleton_sublist.mpr claims).append
        (List.singleton_sublist.mpr List.mem_cons_self)⟩
    · have later : claimNames collision (((name, owner) :: claimed).map fun p => (p.1, label p.2))
          (entries.map fun p => (p.1, label p.2)) = .error e := h
      rcases ih later with ⟨a, mem⟩ | ⟨a, b, other, same, twice⟩
      · exact .inl ⟨a, List.mem_cons_of_mem _ mem⟩
      · exact .inr ⟨a, b, other, same, by simpa using twice⟩

namespace Context
variable {ctx : Context}

/-- The members of a structure that passes the check have field names that are pairwise different
and not claimed before, and those outside of headers have such wire names. -/
theorem checkMembers_names {shape : String} {fields wires : List (String × String)}
    {members : List (String × Member)}
    (h : ctx.checkMembers shape fields wires members = .ok ()) :
    (∃ names : List String, members.map (fun m => ctx.names.snakeName m.1) = names.map .ok ∧
      names.Nodup ∧ ∀ name ∈ names, name ∉ fields.map (·.1)) ∧
    ∃ names : List String, (members.filter (·.2.location != .header)).map
        (fun m => ctx.wireName m.1 m.2) = names.map .ok ∧
      names.Nodup ∧ ∀ name ∈ names, name ∉ wires.map (·.1) := by
  induction members generalizing fields wires with
  | nil => exact ⟨⟨[], by simp⟩, [], by simp⟩
  | cons entry members ih =>
    obtain ⟨name, m⟩ := entry
    simp only [checkMembers, bind_eq_ok] at h
    obtain ⟨field, named, h⟩ := h
    split at h
    · cases h
    rename_i fresh
    rw [List.map_cons, named]
    split at h
    · rename_i header
      obtain ⟨named, wired⟩ := ih h
      refine ⟨exists_names_cons fresh named, ?_⟩
      rwa [List.filter_cons_of_neg (by simpa using header)]
    · rename_i body
      simp only [bind_eq_ok] at h
      obtain ⟨wire, wired, h⟩ := h
      split at h
      · cases h
      rename_i unused
      obtain ⟨named, rest⟩ := ih h
      refine ⟨exists_names_cons fresh named, ?_⟩
      rw [List.filter_cons_of_pos (by simpa using body), List.map_cons, wired]
      exact exists_names_cons unused rest

/-- Every member of a structure that passes the check has a field name. -/
theorem exists_snakeName_of_checkMembers {shape : String} {fields wires : List (String × String)}
    {members : List (String × Member)}
    (h : ctx.checkMembers shape fields wires members = .ok ()) {m : String × Member}
    (mem : m ∈ members) : ∃ field, ctx.names.snakeName m.1 = .ok field := by
  obtain ⟨⟨names, resolved, -⟩, -⟩ := checkMembers_names h
  have here : ctx.names.snakeName m.1 ∈ names.map Except.ok := resolved ▸ List.mem_map_of_mem mem
  obtain ⟨name, -, same⟩ := List.mem_map.mp here
  exact ⟨name, same.symm⟩

end Context
end ServiceClient.Generator
