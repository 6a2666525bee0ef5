import ServiceClient.Proofs.Generator.Embedding
import Mathlib.Data.List.Chain
import Mathlib.Logic.Relation
import Mathlib.Order.WellFounded

/-! Structures that hold themselves by value. The search for them ends by itself, passes a service
exactly if no structure leads back to itself along members, and else reports such a way, on which
nothing but its ends is met twice. -/

namespace ServiceClient.Schema.Service
open Relation

variable {s : Service}

/-- A way along members from a structure back to itself, with no other structure met twice. -/
structure IsCycle (s : Service) (shape : String) (path : List String) : Prop where
  closed : ∃ between, path = shape :: between ++ [shape]
  linked : path.IsChain s.Embeds
  once : path.tail.Nodup

theorem IsCycle.transGen {shape : String} {path : List String} (cycle : s.IsCycle shape path) :
    TransGen s.Embeds shape shape := by
  obtain ⟨⟨between, rfl⟩, linked, -⟩ := cycle
  have ordered : (shape :: (between ++ [shape])).Pairwise (TransGen s.Embeds) :=
    List.isChain_iff_pairwise.mp (linked.imp fun _ _ => .single)
  exact (List.pairwise_cons.mp ordered).1 shape (by simp)

theorem embeds_of_member {outer : String} {o o' : Structure} {m : String × Member}
    (own : s.structure? outer = some o) (mem : m ∈ o.members)
    (held : s.structure? m.2.shape = some o') : s.Embeds outer m.2.shape := by
  obtain ⟨shape, found, struct⟩ := Option.bind_eq_some_iff.mp held
  refine ⟨?_, o, own, m, mem, rfl⟩
  rw [found, Option.any_some, struct, Option.isSome_some]

/-- Different structures, each embedded in the one behind it. -/
structure Trail (s : Service) (path : List String) : Prop where
  distinct : path.Nodup
  structures : ∀ name ∈ path, ∃ o, s.structure? name = some o
  linked : path.IsChain fun inner outer => s.Embeds outer inner

/-- The last structure of the path, if there is one, has a member of that shape. -/
def Leads (s : Service) (path : List String) (name : String) : Prop :=
  ∀ outer ∈ path.head?, ∃ o, s.structure? outer = some o ∧ ∃ m ∈ o.members, m.2.shape = name

namespace Trail
variable {path : List String} {name : String} {o : Structure}

theorem linked_cons (trail : s.Trail path) (leads : s.Leads path name)
    (own : s.structure? name = some o) :
    (name :: path).IsChain fun inner outer => s.Embeds outer inner := by
  refine List.isChain_cons.mpr ⟨fun outer last => ?_, trail.linked⟩
  obtain ⟨o', held, m, mem, rfl⟩ := leads outer last
  exact embeds_of_member held mem own

theorem cons (trail : s.Trail path) (leads : s.Leads path name) (own : s.structure? name = some o)
    (fresh : name ∉ path) : s.Trail (name :: path) where
  distinct := List.nodup_cons.mpr ⟨fresh, trail.distinct⟩
  structures := List.forall_mem_cons.mpr ⟨⟨o, own⟩, trail.structures⟩
  linked := trail.linked_cons leads own

/-- A trail that leads to a structure on it is closed to a cycle. -/
theorem isCycle (trail : s.Trail path) (leads : s.Leads path name) (met : name ∈ path) :
    s.IsCycle name (Generator.wayBack path name) := by
  obtain ⟨o, own⟩ := trail.structures name met
  have linked := trail.linked_cons leads own
  have distinct := trail.distinct
  obtain ⟨newer, older, rfl, unmet⟩ := List.eq_append_cons_of_mem met
  have since : (newer ++ name :: older).takeWhile (· != name) = newer := by
    have others : ∀ other ∈ newer, (other != name) = true := by
      rintro other mem
      exact bne_iff_ne.mpr fun same => unmet (same ▸ mem)
    simp [List.takeWhile_append_of_pos others]
  have back : Generator.wayBack (newer ++ name :: older) name =
      (name :: newer ++ [name]).reverse := by
    simp [Generator.wayBack, since]
  refine ⟨⟨newer.reverse, by rw [Generator.wayBack, since]⟩, ?_, ?_⟩
  · rw [back, List.isChain_reverse]
    exact (List.isChain_split.mp linked).1
  · have own : (newer ++ [name]).Nodup :=
      distinct.sublist ((List.singleton_sublist.mpr List.mem_cons_self).append_left newer)
    rw [Generator.wayBack, since]
    exact ((List.reverse_perm newer).append_right [name]).nodup_iff.mpr own

end Trail
end ServiceClient.Schema.Service

namespace ServiceClient.Generator
open ServiceClient.Schema ServiceClient.Sequence Relation

variable {s : Service}

/-- The only fault of a search is a cycle. -/
theorem Search.isCycle {path finished names : List String} {e : Error}
    (searched : Search s path finished names (.error e)) (trail : s.Trail path)
    (leads : ∀ name ∈ names, s.Leads path name) :
    ∃ shape way, e = .recursiveShape shape way ∧ s.IsCycle shape way := by
  generalize result : (Except.error e : Except Error (List String)) = r at searched
  induction searched with
  | done => cases result
  | finished _ _ ih => exact ih trail (List.forall_mem_cons.mp leads).2 result
  | repeated _ met =>
    cases result
    exact ⟨_, _, rfl, trail.isCycle (leads _ List.mem_cons_self) met⟩
  | plain _ _ _ _ ih => exact ih trail (List.forall_mem_cons.mp leads).2 result
  | @fault _ _ _ name o _ _ fresh own _ ih =>
    refine ih (trail.cons (leads _ List.mem_cons_self) own fresh) ?_ result
    rintro inner mem _ ⟨⟩
    obtain ⟨m, here, same⟩ := List.mem_map.mp mem
    exact ⟨o, own, m, here, same⟩
  | entered _ _ _ _ _ _ ih => exact ih trail (List.forall_mem_cons.mp leads).2 result

theorem Context.isCycle_of_checkRecursion {e : Error} (found : checkRecursion s = .error e) :
    ∃ shape path, e = .recursiveShape shape path ∧ s.IsCycle shape path := by
  obtain ⟨r, searched, result⟩ := exists_search s
  rw [result] at found
  cases r with
  | ok finished => cases found
  | error e =>
    cases found
    exact searched.isCycle ⟨List.nodup_nil, by simp, .nil⟩ fun _ _ _ none => by cases none

/-- The search for structures that hold themselves by value has one result and needs no bound to
reach it. It passes a service exactly if no structure leads back to itself along members, and
otherwise names one that does, with the way. -/
theorem recursion_found_iff (service : Service) :
    (∃ r, (∀ r', Search service [] [] service.structureNames r' ↔ r' = r) ∧
      Context.checkRecursion service = r.map fun _ => ()) ∧
    (Context.checkRecursion service = .ok () ↔ ∀ name, ¬TransGen service.Embeds name name) ∧
    ∀ e, Context.checkRecursion service = .error e →
      ∃ shape path, e = .recursiveShape shape path ∧ service.IsCycle shape path := by
  obtain ⟨r, searched, result⟩ := Context.exists_search service
  refine ⟨⟨r, fun r' => ⟨fun other => other.unique searched, fun same => same ▸ searched⟩, result⟩,
    ⟨fun checked name cycle => ?_, fun acyclic => ?_⟩,
    fun e found => Context.isCycle_of_checkRecursion found⟩
  · have ends := (Context.wellFounded_embeds checked).transGen
    exact ends.irrefl.irrefl name (transGen_swap.mpr cycle)
  · cases found : Context.checkRecursion service with
    | ok => rfl
    | error e =>
      obtain ⟨shape, path, -, cycle⟩ := Context.isCycle_of_checkRecursion found
      exact absurd cycle.transGen (acyclic shape)

example :
    Context.checkRecursion
      { metadata := { endpointPrefix := "pairs" }, operations := [],
        shapes :=
          [{ name := "A", kind := .struct ⟨[("B", { shape := "B" })], [], none⟩ },
            { name := "B", kind := .struct ⟨[("A", { shape := "A" })], [], none⟩ }] } =
      .error (.recursiveShape "A" ["A", "B", "A"]) := rfl

end ServiceClient.Generator
