import ServiceClient.Proofs.Generator.Assembly
import Mathlib.Data.Fintype.Card
import Mathlib.Data.Set.Finite.List
import Mathlib.Logic.Relation

/-! Aliases that come to an end. The checks keep structures from holding themselves by value and say
nothing of lists and maps, so that the aliases of a checked service expand to finite types exactly
when no list or map leads back to itself through elements and values. -/

namespace ServiceClient.Schema
open Relation

/-- The shapes that a list or map holds any number of. -/
def Shape.contents (s : Shape) : List String :=
  match s.kind with
  | .list element => [element.shape]
  | .map _ value => [value.shape]
  | _ => []

namespace Service
variable {s : Service}

/-- A list or map holds a list or map. -/
def Contains (s : Service) (outer inner : String) : Prop :=
  ∃ shape target, s.shape? outer = some shape ∧ inner ∈ shape.contents ∧
    s.shape? inner = some target ∧ target.collection?.isSome

/-- The type that a shape stands for is finite. Structures are declared and primitives are given;
the alias of a list or map is as finite as what it refers to. -/
inductive Expands (s : Service) : String → Prop
  | plain {name : String} {shape : Shape} (found : s.shape? name = some shape)
      (plain : shape.collection? = none) : Expands s name
  | collection {name : String} {shape : Shape} (found : s.shape? name = some shape)
      (collection : shape.collection?.isSome) (parts : ∀ part ∈ shape.references, Expands s part) :
      Expands s name

theorem contents_subset_references (shape : Shape) : shape.contents ⊆ shape.references := by
  cases kind : shape.kind <;> simp [Shape.contents, Shape.references, Shape.parts, kind]

theorem contents_eq_nil {shape : Shape} (plain : shape.collection? = none) :
    shape.contents = [] := by
  cases kind : shape.kind <;> simp_all [Shape.contents, Shape.collection?]

/-- Below a shape whose type is finite, lists and maps are nested only so deep. -/
theorem Expands.acc {name : String} (finite : s.Expands name) :
    Acc (fun inner outer => s.Contains outer inner) name := by
  induction finite with
  | plain found plain =>
    refine .intro _ fun inner ⟨shape, target, found', mem, _⟩ => ?_
    obtain rfl := Option.some.inj (found.symm.trans found')
    rw [contents_eq_nil plain] at mem
    cases mem
  | collection found collection parts ih =>
    refine .intro _ fun inner ⟨shape, target, found', mem, _⟩ => ?_
    obtain rfl := Option.some.inj (found.symm.trans found')
    exact ih inner (contents_subset_references _ mem)

theorem not_self_of_acc {α : Type} {r : α → α → Prop} {a : α} (acc : Acc r a) : ¬r a a := by
  induction acc with
  | intro a _ ih => exact fun self => ih a self self

theorem Expands.not_transGen {name : String} (finite : s.Expands name) :
    ¬TransGen s.Contains name name := by
  intro cycle
  exact not_self_of_acc finite.acc.transGen (transGen_swap.mpr cycle)

theorem mem_names_of_shape? {name : String} {shape : Shape} (found : s.shape? name = some shape) :
    name ∈ s.shapes.map (·.name) := by
  obtain ⟨mem, rfl⟩ := shape?_eq_some found
  exact List.mem_map_of_mem mem

/-- Where no list or map leads back to itself, they are nested only so deep, as there are only so
many shapes. -/
theorem acc_of_acyclic (acyclic : ∀ name, ¬TransGen s.Contains name name) (name : String) :
    Acc (fun inner outer => s.Contains outer inner) name := by
  let nested := fun inner outer : {name // name ∈ s.shapes.map (·.name)} =>
    TransGen s.Contains outer.1 inner.1
  have : Finite {name // name ∈ s.shapes.map (·.name)} :=
    (List.finite_toSet (s.shapes.map (·.name))).to_subtype
  have : IsTrans _ nested := ⟨fun _ _ _ low high => high.trans low⟩
  have : Std.Irrefl nested := ⟨fun name => acyclic name.1⟩
  have wellFounded : WellFounded nested := Finite.wellFounded_of_trans_of_irrefl nested
  have known : ∀ name : {name // name ∈ s.shapes.map (·.name)},
      Acc (fun inner outer => s.Contains outer inner) name.1 := by
    intro name
    induction name using wellFounded.induction with
    | _ name ih =>
      refine .intro _ fun inner holds => ?_
      obtain ⟨_, _, -, -, found, -⟩ := id holds
      exact ih ⟨inner, mem_names_of_shape? found⟩ (.single holds)
  refine .intro _ fun inner holds => ?_
  obtain ⟨_, _, -, -, found, -⟩ := id holds
  exact known ⟨inner, mem_names_of_shape? found⟩

end Service
end ServiceClient.Schema

namespace ServiceClient.Generator
open ServiceClient.Schema ServiceClient.Sequence Relation

namespace Context.Checked
variable {ctx : Context}

/-- The keys of maps are primitive and have an order. -/
theorem exists_keyKind (h : ctx.Checked) {shape : Shape} (mem : shape ∈ ctx.service.shapes)
    {key value : Member} (kind : shape.kind = .map key value) :
    ∃ target k, ctx.service.shape? key.shape = some target ∧ target.kind = .primitive k ∧
      k.isOrderable := by
  have checked := (Context.validate_eq_ok.mp h.valid).1 shape mem
  simp only [checkShape, kind, checkMapKey, bind_eq_ok] at checked
  obtain ⟨target, found, ordered⟩ := checked
  split at ordered
  · rename_i orderable
    cases own : target.kind with
    | primitive k =>
      refine ⟨target, k, shape_eq_ok.mp found, own, ?_⟩
      simpa [Shape.primitive?, own] using orderable
    | struct | list | map => simp [Shape.primitive?, own] at orderable
  · cases ordered

theorem exists_key (h : ctx.Checked) {shape : Shape} (mem : shape ∈ ctx.service.shapes)
    {key value : Member} (kind : shape.kind = .map key value) :
    ∃ target, ctx.service.shape? key.shape = some target ∧ target.collection? = none := by
  obtain ⟨target, k, found, own, -⟩ := h.exists_keyKind mem kind
  exact ⟨target, found, by simp [Shape.collection?, own]⟩

/-- What a list or map refers to is defined, and is held by it unless it is a type of its own. -/
theorem part_of_collection (h : ctx.Checked) {shape : Shape} (mem : shape ∈ ctx.service.shapes)
    (collection : shape.collection?.isSome) {part : String} (refers : part ∈ shape.references) :
    ∃ target, ctx.service.shape? part = some target ∧
      (target.collection? = none ∨ part ∈ shape.contents) := by
  cases kind : shape.kind with
  | primitive k => simp [Shape.collection?, kind] at collection
  | struct s => simp [Shape.collection?, kind] at collection
  | list element =>
    have here : ("member", element) ∈ shape.parts := by simp [Shape.parts, kind]
    obtain ⟨target, found⟩ := Service.exists_shape_of_part h.references mem here
    obtain rfl : part = element.shape := by simpa [Shape.references, Shape.parts, kind] using refers
    exact ⟨target, found, .inr (by simp [Shape.contents, kind])⟩
  | map key value =>
    have here : ("value", value) ∈ shape.parts := by simp [Shape.parts, kind]
    obtain ⟨target, found⟩ := Service.exists_shape_of_part h.references mem here
    obtain rfl | rfl : part = key.shape ∨ part = value.shape := by
      simpa [Shape.references, Shape.parts, kind] using refers
    · obtain ⟨target, found, plain⟩ := h.exists_key mem kind
      exact ⟨target, found, .inl plain⟩
    · exact ⟨target, found, .inr (by simp [Shape.contents, kind])⟩

theorem expands_of_acc (h : ctx.Checked) {name : String}
    (acc : Acc (fun inner outer => ctx.service.Contains outer inner) name) {shape : Shape}
    (found : ctx.service.shape? name = some shape) : ctx.service.Expands name := by
  induction acc generalizing shape with
  | intro name _ ih =>
    cases collection : shape.collection? with
    | none => exact .plain found collection
    | some sort =>
      have collection : shape.collection?.isSome := by rw [collection]; rfl
      refine .collection found collection fun part refers => ?_
      obtain ⟨mem, -⟩ := Service.shape?_eq_some found
      obtain ⟨target, found', plain | held⟩ := h.part_of_collection mem collection refers
      · exact .plain found' plain
      · cases inner : target.collection? with
        | none => exact .plain found' inner
        | some _ => exact ih part ⟨shape, target, found, held, found', by rw [inner]; rfl⟩ found'

end Context.Checked

/-- In a checked service every type expands to a finite one exactly if no list or map leads back to
itself through elements and values. -/
theorem aliases_expand_iff {text : String} {service : Service} {config : Config} {ctx : Context}
    (loaded : Service.load text = .ok service) (made : Context.new service config = .ok ctx)
    (valid : ctx.validate = .ok ()) :
    (∀ shape ∈ service.shapes, service.Expands shape.name) ↔
      ∀ name, ¬TransGen service.Contains name name := by
  have h := Context.Checked.ofLoad loaded made valid
  obtain ⟨rfl, -⟩ := Context.new_eq_ok made
  constructor
  · intro finite name cycle
    obtain ⟨_, -, _, shape, -, -, found, -⟩ := TransGen.tail'_iff.mp cycle
    obtain ⟨mem, rfl⟩ := Service.shape?_eq_some found
    exact (finite shape mem).not_transGen cycle
  · intro acyclic shape mem
    obtain ⟨found, here⟩ := Service.exists_shape_of_mem mem
    exact h.expands_of_acc (Service.acc_of_acyclic acyclic shape.name) here

theorem nodes_expand : Service.load nodesText = .ok nodes ∧
    (∃ ctx, Context.new nodes {} = .ok ctx ∧ ctx.validate = .ok ()) ∧
    ∀ shape ∈ nodes.shapes, nodes.Expands shape.name := by
  obtain ⟨ctx, made, valid⟩ := exists_context_nodes
  refine ⟨load_nodesText, ⟨ctx, made, valid⟩,
    (aliases_expand_iff load_nodesText made valid).mpr fun name cycle => ?_⟩
  have plain : ∀ shape ∈ nodes.shapes, ∀ inner ∈ shape.contents,
      (nodes.shape? inner).all fun target => !target.collection?.isSome := by decide
  obtain ⟨_, -, shape, target, found, held, inner, collection⟩ := TransGen.tail'_iff.mp cycle
  have apart := plain shape (Service.shape?_eq_some found).1 name held
  rw [inner, Option.all_some, collection] at apart
  cases apart

/-- A list of itself. -/
def loopText : String :=
  "\x7b\"metadata\":[\"loops\",\"rest-xml\"],
    \"shapes\":\x7b\"Loop\":\x7b\"type\":\"list\",\"member\":[\"Loop\"]\x7d\x7d\x7d"

def loops : Service where
  metadata := { endpointPrefix := "loops", protocol := some "rest-xml" }
  operations := []
  shapes := [{ name := "Loop", kind := .list { shape := "Loop" } }]

set_option maxRecDepth 2000 in
theorem load_loopText : Service.load loopText = .ok loops :=
  Service.load_ofList (by decide +kernel)

/-- A list of itself passes the checks, and its alias is written in terms of itself. -/
theorem loop_passes_checks : Service.load loopText = .ok loops ∧
    (∃ ctx plan, Context.new loops {} = .ok ctx ∧ ctx.validate = .ok () ∧ ctx.plan = .ok plan ∧
      plan.declaration? "Loop" = some ⟨[], "Loop", .alias (.list "Loop")⟩) ∧
    loops.Contains "Loop" "Loop" ∧ ¬loops.Expands "Loop" := by
  have planned : ((planService loops {}).toOption.bind (·.declaration? "Loop")) =
      some ⟨[], "Loop", .alias (.list "Loop")⟩ := rfl
  obtain ⟨plan, made, declared⟩ := Option.bind_eq_some_iff.mp planned
  obtain ⟨ctx, new, checked⟩ := bind_eq_ok.mp (eq_ok_of_toOption made)
  obtain ⟨valid, resolved⟩ := then_eq_ok.mp checked
  have holds : loops.Contains "Loop" "Loop" := ⟨_, _, rfl, List.mem_cons_self, rfl, rfl⟩
  exact ⟨load_loopText, ⟨ctx, plan, new, valid, resolved, declared⟩, holds,
    fun finite => finite.not_transGen (.single holds)⟩

end ServiceClient.Generator
