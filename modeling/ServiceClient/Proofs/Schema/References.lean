import ServiceClient.Proofs.Data.Sequence
import ServiceClient.Schema.Service
import Mathlib.Data.List.Nodup

/-! References of a loaded service. Loading ends with the check of all references, so every shape
that a structure, list, map or operation refers to is found under its name. -/

namespace ServiceClient.Schema.Service
open ServiceClient.Sequence

theorem shape?_eq_some {s : Service} {name : String} {shape : Shape}
    (h : s.shape? name = some shape) : shape ∈ s.shapes ∧ shape.name = name := by
  have key := List.find?_some h
  exact ⟨List.mem_of_find?_eq_some h, by simpa using key⟩

theorem exists_shape_of_mem {s : Service} {shape : Shape} (mem : shape ∈ s.shapes) :
    ∃ found, s.shape? shape.name = some found := by
  cases h : s.shape? shape.name with
  | some found => exact ⟨found, rfl⟩
  | none => exact absurd (List.find?_eq_none.mp h shape mem) (by simp)

/-- Where no two shapes have the same name, each is found under its own. -/
theorem shape?_of_mem {s : Service} (ascending : (s.shapes.map (·.name)).Pairwise (· < ·))
    {shape : Shape} (mem : shape ∈ s.shapes) : s.shape? shape.name = some shape := by
  obtain ⟨found, here⟩ := exists_shape_of_mem mem
  obtain ⟨mem', same⟩ := shape?_eq_some here
  have distinct : (s.shapes.map (·.name)).Nodup := ascending.imp String.ne_of_lt
  rw [here, List.inj_on_of_nodup_map distinct mem' mem same]

theorem checkReferences_ofDocument {d : Document} {s : Service} (h : ofDocument d = .ok s) :
    s.checkReferences = .ok () := by
  simp only [ofDocument, bind_eq_ok] at h
  obtain ⟨shapes, -, operations, -, ⟨⟩, checked, same⟩ := h
  cases same
  exact checked

theorem checkReferences_load {text : String} {s : Service} (h : load text = .ok s) :
    s.checkReferences = .ok () := by
  simp only [load, bind_eq_ok] at h
  obtain ⟨d, -, made⟩ := h
  exact checkReferences_ofDocument made

variable {s : Service}

theorem exists_shape_of_reference (checked : s.checkReferences = .ok ()) {owner name : String}
    (mem : (owner, name) ∈ s.references) : ∃ shape, s.shape? name = some shape := by
  have none : s.references.find? (fun r => !s.defines r.2) = none := by
    simp only [checkReferences] at checked
    split at checked
    · cases checked
    · assumption
  have defined : (s.shape? name).isSome := by
    simpa [defines, Option.isSome_iff_ne_none] using List.find?_eq_none.mp none _ mem
  exact Option.isSome_iff_exists.mp defined

theorem exists_shape_of_part (checked : s.checkReferences = .ok ()) {shape : Shape}
    (mem : shape ∈ s.shapes) {part : String} {m : Member} (h : (part, m) ∈ shape.parts) :
    ∃ target, s.shape? m.shape = some target := by
  have referred : (s!"{shape.name}.{part}", m.shape) ∈
      shape.parts.map fun r => (s!"{shape.name}.{r.1}", r.2.shape) :=
    List.mem_map_of_mem h
  exact exists_shape_of_reference checked
    (List.mem_append_left _ (List.mem_flatMap_of_mem mem referred))

theorem exists_shape_of_operation (checked : s.checkReferences = .ok ()) {o : Operation}
    (mem : o ∈ s.operations) {part name : String} (h : (part, name) ∈ o.parts) :
    ∃ target, s.shape? name = some target := by
  have referred : (s!"operation {o.name} {part}", name) ∈
      o.parts.map fun r => (s!"operation {o.name} {r.1}", r.2) :=
    List.mem_map_of_mem h
  exact exists_shape_of_reference checked
    (List.mem_append_right _ (List.mem_flatMap_of_mem mem referred))

theorem exists_shape_of_input (checked : s.checkReferences = .ok ()) {o : Operation}
    (mem : o ∈ s.operations) {name : String} (h : o.input = some name) :
    ∃ target, s.shape? name = some target := by
  have part : ("input", name) ∈ o.parts := by simp [Operation.parts, h]
  exact exists_shape_of_operation checked mem part

theorem exists_shape_of_output (checked : s.checkReferences = .ok ()) {o : Operation}
    (mem : o ∈ s.operations) {name : String} (h : o.output = some name) :
    ∃ target, s.shape? name = some target := by
  have part : ("output", name) ∈ o.parts := by simp [Operation.parts, h]
  exact exists_shape_of_operation checked mem part

end ServiceClient.Schema.Service
