import ServiceClient.Proofs.Generator.Checked
import ServiceClient.Proofs.Generator.Search

/-! Structures inside of structures. A structure embeds another where one of its members is of that
shape: no list or map stands between. The checks follow these members as far as they lead, so that
in a checked service they come to an end. -/

namespace ServiceClient.Schema

/-- A member of the structure `outer` is of the structure `inner`. -/
def Service.Embeds (s : Service) (outer inner : String) : Prop :=
  (s.shape? inner).any (·.structure?.isSome) ∧
    ∃ o, (s.shape? outer).bind Shape.structure? = some o ∧ ∃ m ∈ o.members, m.2.shape = inner

end ServiceClient.Schema

namespace ServiceClient.Generator
open ServiceClient.Schema ServiceClient.Sequence

variable {s : Service}

/-- What was followed without a fault embeds structures only so deep. -/
theorem Search.acc {path finished names finished' : List String}
    (searched : Search s path finished names (.ok finished'))
    (done : ∀ n ∈ finished, Acc (fun inner outer => s.Embeds outer inner) n) :
    (∀ n ∈ finished', Acc (fun inner outer => s.Embeds outer inner) n) ∧
      ∀ n ∈ names, Acc (fun inner outer => s.Embeds outer inner) n := by
  -- A structure is finished after its members, so that all below it have come to an end by then.
  generalize result : (Except.ok finished' : Except Error (List String)) = r at searched
  induction searched generalizing finished' with
  | done =>
    cases result
    exact ⟨done, by simp⟩
  | finished met _ ih =>
    obtain ⟨later, others⟩ := ih done result
    exact ⟨later, List.forall_mem_cons.mpr ⟨done _ met, others⟩⟩
  | repeated | fault => cases result
  | plain _ _ plain _ ih =>
    obtain ⟨later, others⟩ := ih done result
    refine ⟨later, List.forall_mem_cons.mpr ⟨.intro _ fun inner ⟨_, o, held, _⟩ => ?_, others⟩⟩
    cases plain.symm.trans held
  | @entered _ _ _ _ name o _ _ _ own _ _ inner rest =>
    obtain ⟨earlier, members⟩ := inner done rfl
    have ends : Acc (fun inner outer => s.Embeds outer inner) name := by
      refine .intro _ fun inner ⟨_, o', held, m, mem, same⟩ => ?_
      obtain rfl : o = o' := Option.some.inj (own.symm.trans held)
      exact same ▸ members _ (List.mem_map_of_mem mem)
    obtain ⟨later, others⟩ := rest (List.forall_mem_cons.mpr ⟨ends, earlier⟩) result
    exact ⟨later, List.forall_mem_cons.mpr ⟨ends, others⟩⟩

namespace Context

/-- In a service that passes the check, structures are embedded only so deep. -/
theorem wellFounded_embeds (checked : checkRecursion s = .ok ()) :
    WellFounded fun inner outer => s.Embeds outer inner := by
  obtain ⟨r, searched, result⟩ := exists_search s
  obtain ⟨finished, rfl, -⟩ := map_eq_ok.mp (result.symm.trans checked)
  obtain ⟨-, structures⟩ := searched.acc (by simp)
  refine ⟨fun name => .intro _ fun inner ⟨own, _⟩ => ?_⟩
  obtain ⟨shape, found, struct⟩ := (Option.any_eq_true _ _).mp own
  obtain ⟨mem, rfl⟩ := Service.shape?_eq_some found
  exact structures shape.name (List.mem_map_of_mem (List.mem_filter.mpr ⟨mem, struct⟩))

end Context
end ServiceClient.Generator
