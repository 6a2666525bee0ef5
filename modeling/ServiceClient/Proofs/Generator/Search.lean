import ServiceClient.Generator.Validation
import ServiceClient.Proofs.Data.Sequence
import ServiceClient.Proofs.Schema.References
import Mathlib.Data.List.Perm.Subperm

/-! The search along structures inside of structures, without a bound on its depth. Every search has
exactly one result, and the bound that the check counts down never decides it: a path without
repetition is no longer than the shapes are many. -/

namespace ServiceClient.Schema.Service

/-- The names of the structures, where searches start. -/
def structureNames (s : Service) : List String :=
  (s.shapes.filter (·.structure?.isSome)).map (·.name)

/-- The structure of that name. -/
def structure? (s : Service) (name : String) : Option Structure :=
  (s.shape? name).bind Shape.structure?

variable {s : Service}

theorem mem_names_of_structure? {name : String} {o : Structure} (own : s.structure? name = some o) :
    name ∈ s.shapes.map (·.name) := by
  obtain ⟨shape, found, -⟩ := Option.bind_eq_some_iff.mp own
  obtain ⟨mem, rfl⟩ := shape?_eq_some found
  exact List.mem_map_of_mem mem

end ServiceClient.Schema.Service

namespace ServiceClient.Generator
open ServiceClient.Schema ServiceClient.Sequence

/-- The way back from a structure to where it stands in the path that led to it, newest first. -/
def wayBack (path : List String) (name : String) : List String :=
  name :: (path.takeWhile (· != name)).reverse ++ [name]

/-- Names are followed one after the other, each before the members of the next: those that are
finished or no structures at once, those met again on the path as a fault, and all others through
their members. -/
inductive Search (s : Service) :
    (path finished names : List String) → Except Error (List String) → Prop
  | done {path finished : List String} : Search s path finished [] (.ok finished)
  | finished {path finished names : List String} {name : String} {r : Except Error (List String)}
      (met : name ∈ finished) (rest : Search s path finished names r) :
      Search s path finished (name :: names) r
  | repeated {path finished names : List String} {name : String}
      (unmet : name ∉ finished) (met : name ∈ path) :
      Search s path finished (name :: names) (.error (.recursiveShape name (wayBack path name)))
  | plain {path finished names : List String} {name : String} {r : Except Error (List String)}
      (unmet : name ∉ finished) (fresh : name ∉ path) (plain : s.structure? name = none)
      (rest : Search s path finished names r) : Search s path finished (name :: names) r
  | fault {path finished names : List String} {name : String} {o : Structure} {e : Error}
      (unmet : name ∉ finished) (fresh : name ∉ path) (own : s.structure? name = some o)
      (inner : Search s (name :: path) finished (o.members.map (·.2.shape)) (.error e)) :
      Search s path finished (name :: names) (.error e)
  | entered {path finished names finished' : List String} {name : String} {o : Structure}
      {r : Except Error (List String)}
      (unmet : name ∉ finished) (fresh : name ∉ path) (own : s.structure? name = some o)
      (inner : Search s (name :: path) finished (o.members.map (·.2.shape)) (.ok finished'))
      (rest : Search s path (name :: finished') names r) : Search s path finished (name :: names) r

namespace Search
variable {s : Service} {path finished names : List String}

theorem unique {r r' : Except Error (List String)} (first : Search s path finished names r)
    (second : Search s path finished names r') : r = r' := by
  induction first generalizing r' with
  | done =>
    cases second
    rfl
  | finished met _ ih =>
    cases second with
    | finished _ rest => exact ih rest
    | repeated unmet | plain unmet | fault unmet | entered unmet => exact absurd met unmet
  | repeated unmet met =>
    cases second with
    | finished met' => exact absurd met' unmet
    | repeated => rfl
    | plain _ fresh | fault _ fresh | entered _ fresh => exact absurd met fresh
  | plain unmet fresh plain _ ih =>
    cases second with
    | finished met => exact absurd met unmet
    | repeated _ met => exact absurd met fresh
    | plain _ _ _ rest => exact ih rest
    | fault _ _ own | entered _ _ own => simp [plain] at own
  | fault unmet fresh own _ ih =>
    cases second with
    | finished met => exact absurd met unmet
    | repeated _ met => exact absurd met fresh
    | plain _ _ plain => simp [plain] at own
    | fault _ _ own' inner =>
      obtain rfl := Option.some.inj (own.symm.trans own')
      exact congrArg Except.error (Except.error.inj (ih inner))
    | entered _ _ own' inner =>
      obtain rfl := Option.some.inj (own.symm.trans own')
      cases ih inner
  | entered unmet fresh own _ _ ih ih' =>
    cases second with
    | finished met => exact absurd met unmet
    | repeated _ met => exact absurd met fresh
    | plain _ _ plain => simp [plain] at own
    | fault _ _ own' inner =>
      obtain rfl := Option.some.inj (own.symm.trans own')
      cases ih inner
    | entered _ _ own' inner rest =>
      obtain rfl := Option.some.inj (own.symm.trans own')
      cases ih inner
      exact ih' rest

variable {name : String}

theorem cons_ok {finished' : List String} {r : Except Error (List String)}
    (first : Search s path finished [name] (.ok finished'))
    (rest : Search s path finished' names r) : Search s path finished (name :: names) r := by
  cases first with
  | finished met done =>
    cases done
    exact .finished met rest
  | plain unmet fresh plain done =>
    cases done
    exact .plain unmet fresh plain rest
  | entered unmet fresh own inner done =>
    cases done
    exact .entered unmet fresh own inner rest

theorem cons_error {e : Error} (first : Search s path finished [name] (.error e)) :
    Search s path finished (name :: names) (.error e) := by
  cases first with
  | finished _ done | plain _ _ _ done | entered _ _ _ _ done => cases done
  | repeated unmet met => exact .repeated unmet met
  | fault unmet fresh own inner => exact .fault unmet fresh own inner

/-- Searches from one name after the other are a search from all. -/
theorem foldlM {step : List String → String → Except Error (List String)}
    (each : ∀ finished, ∀ name ∈ names, Search s path finished [name] (step finished name)) :
    Search s path finished names (names.foldlM step finished) := by
  induction names generalizing finished with
  | nil => exact .done
  | cons name names ih =>
    have first := each finished name List.mem_cons_self
    rw [List.foldlM_cons]
    cases made : step finished name with
    | error e =>
      rw [made] at first
      exact first.cons_error
    | ok finished' =>
      rw [made] at first
      exact first.cons_ok (ih fun finished name mem =>
        each finished name (List.mem_cons_of_mem _ mem))

end Search

namespace Context
variable {s : Service}

/-- As long as the bound on the depth makes up for what the path is short of, it is not met. -/
theorem search_visit {depth : Nat} {path finished : List String} {name : String}
    (distinct : path.Nodup) (known : path ⊆ s.shapes.map (·.name))
    (enough : s.shapes.length < path.length + depth) :
    Search s path finished [name] (visit s depth path finished name) := by
  induction depth generalizing path finished name with
  | zero =>
    have long := (List.Nodup.subperm distinct known).length_le
    rw [List.length_map] at long
    omega
  | succ depth ih =>
    rw [visit]
    split
    · rename_i met
      exact .finished (by simpa using met) .done
    rename_i unmet
    rw [List.contains_iff_mem] at unmet
    split
    · rename_i met
      exact .repeated unmet (by simpa using met)
    rename_i fresh
    rw [List.contains_iff_mem] at fresh
    split
    · rename_i plain
      exact .plain unmet fresh plain .done
    · rename_i o own
      have longer : (name :: path).Nodup := List.nodup_cons.mpr ⟨fresh, distinct⟩
      have below : name :: path ⊆ s.shapes.map (·.name) :=
        List.cons_subset.mpr ⟨Service.mem_names_of_structure? own, known⟩
      have inner : Search s (name :: path) finished (o.members.map (·.2.shape))
          (o.members.foldlM
            (fun finished m => visit s depth (name :: path) finished m.2.shape) finished) := by
        rw [← List.foldlM_map]
        exact .foldlM fun _ _ _ => ih longer below (by rw [List.length_cons]; omega)
      cases made : o.members.foldlM
          (fun finished m => visit s depth (name :: path) finished m.2.shape) finished with
      | error e =>
        rw [made] at inner
        exact .fault unmet fresh own inner
      | ok finished' =>
        rw [made] at inner
        exact .entered unmet fresh own inner .done

/-- The check is the search from all structures. -/
theorem exists_search (s : Service) :
    ∃ r, Search s [] [] s.structureNames r ∧ checkRecursion s = r.map fun _ => () := by
  have steps : checkRecursion s =
      (s.structureNames.foldlM (visit s (s.shapes.length + 1) []) []).map fun _ => () := by
    rw [Service.structureNames, List.foldlM_map, checkRecursion]
    cases (s.shapes.filter (·.structure?.isSome)).foldlM
      (fun finished shape => visit s (s.shapes.length + 1) [] finished shape.name) [] <;> rfl
  exact ⟨_, .foldlM fun _ _ _ => search_visit List.nodup_nil (List.nil_subset _) (by simp), steps⟩

end Context
end ServiceClient.Generator
