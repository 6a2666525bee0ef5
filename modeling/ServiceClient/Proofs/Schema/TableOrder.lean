import ServiceClient.Generator.Generate
import ServiceClient.Proofs.Schema.Loading

/-! The order of entries in the tables of a description does not matter. What is loaded, and which
of several faults is reported, depends only on the entries that count: the first fault is that of
the first name, where shapes are checked before operations and both before the references. -/

namespace ServiceClient.Schema
open ServiceClient.Sequence ServiceClient.SortedMap

/-- The entries that no later entry of the same name replaces. -/
def unshadowed {α : Type} : List (String × α) → List (String × α)
  | [] => []
  | e :: entries => if e.1 ∈ keys entries then unshadowed entries else e :: unshadowed entries

/-- The references of an entry, each with what makes it. -/
def ShapeEntry.references (entry : ShapeEntry) (name : String) : List (String × String) :=
  entry.usedParts.map fun (part, m) => (s!"{name}.{part}", m.shape)

def OperationEntry.references (entry : OperationEntry) (name : String) : List (String × String) :=
  ((entry.input.map ("input", ·)).toList ++ (entry.output.map ("output", ·)).toList).map
    fun (part, shape) => (s!"operation {name} {part}", shape)

namespace Document

def dangling? (d : Document) (references : List (String × String)) : Option (String × String) :=
  references.find? fun r => r.2 ∉ keys d.shapes

/-- What is wrong with a description, by the check that finds it and the name of the entry: the
checks are of shapes, of operations, and of what either refers to. -/
inductive Fault (d : Document) : Nat → String → LoadError → Prop
  | shape {name : String} {entry : ShapeEntry} {e : LoadError}
      (last : lastOf? d.shapes name = some entry) (fails : entry.toShape name = .error e) :
      Fault d 0 name e
  | operation {name : String} {entry : OperationEntry}
      (last : lastOf? d.operations name = some entry)
      (unknown : entry.http.method.toUpper ∉ methodWords) :
      Fault d 1 name (.unknownHttpMethod name entry.http.method)
  | shapeReference {name owner target : String} {entry : ShapeEntry}
      (last : lastOf? d.shapes name = some entry)
      (first : d.dangling? (entry.references name) = some (owner, target)) :
      Fault d 2 name (.danglingReference owner target)
  | operationReference {name owner target : String} {entry : OperationEntry}
      (last : lastOf? d.operations name = some entry)
      (first : d.dangling? (entry.references name) = some (owner, target)) :
      Fault d 3 name (.danglingReference owner target)

/-- A fault that none comes before, by the order of the checks and then of the names. -/
def FirstFault (d : Document) (e : LoadError) : Prop :=
  ∃ check name, d.Fault check name e ∧ ∀ check' name' e', d.Fault check' name' e' →
    check < check' ∨ check = check' ∧ name ≤ name'

end Document

section Shadows
variable {α : Type} {entries entries' : List (String × α)}

theorem lastOf?_eq_none {name : String} :
    lastOf? entries name = none ↔ name ∉ keys entries := by
  simp only [lastOf?, List.lookup_eq_none_iff, List.mem_reverse, bne_iff_ne, keys, List.mem_map,
    not_exists, not_and]
  exact forall₂_congr fun e _ => ne_comm

theorem mem_unshadowed {name : String} {a : α} :
    (name, a) ∈ unshadowed entries ↔ lastOf? entries name = some a := by
  induction entries with
  | nil => simp [unshadowed, lastOf?]
  | cons e entries ih =>
    obtain ⟨own, b⟩ := e
    have found : lastOf? ((own, b) :: entries) name =
        (lastOf? entries name).or (if name = own then some b else none) := by
      by_cases same : name = own <;>
        simp [lastOf?, List.lookup_append, List.lookup_cons, beq_eq_decide, same]
    rw [unshadowed, found]
    by_cases same : name = own
    · subst same
      split
      · rename_i later
        cases there : lastOf? entries name with
        | none => exact absurd later (lastOf?_eq_none.mp there)
        | some c => rw [ih, there, Option.some_or]
      · rename_i last
        have absent := lastOf?_eq_none.mpr last
        simp [ih, absent, eq_comm]
    · have rest : (name, a) ∈ (if own ∈ keys entries then unshadowed entries
          else (own, b) :: unshadowed entries) ↔ (name, a) ∈ unshadowed entries := by
        split <;> simp [same]
      rw [rest, ih, if_neg same, Option.or_none]

theorem ofLast_eq_of_perm (same : (unshadowed entries).Perm (unshadowed entries')) :
    ofLast nameLt entries = ofLast nameLt entries' := by
  refine Ascending.ext strict_nameLt (ascending_ofLast strict_nameLt (sortable_nameLt entries))
    (ascending_ofLast strict_nameLt (sortable_nameLt entries')) fun e => ?_
  rw [mem_ofLast_names, mem_ofLast_names, ← mem_unshadowed, ← mem_unshadowed, same.mem_iff]

end Shadows

theorem OperationEntry.fault?_toOperation {entry : OperationEntry} {name : String} {e : LoadError} :
    fault? (entry.toOperation name) = some e ↔
      entry.http.method.toUpper ∉ methodWords ∧
        e = .unknownHttpMethod name entry.http.method := by
  rw [fault?_eq_some, mem_methodWords]
  unfold toOperation
  split
  · rename_i method read
    have known := (find?_word_eq_some HttpMethod.ofWord?_word).mp read
    simp [← known]
  · rename_i unread
    have unknown : ¬∃ method : HttpMethod, method.word = entry.http.method.toUpper := by
      rintro ⟨method, same⟩
      simp [← same, HttpMethod.ofWord?_word] at unread
    rw [Except.error.injEq]
    exact ⟨fun same => ⟨unknown, same.symm⟩, fun fault => fault.2.symm⟩

/-- A search through the entries that count finds the fault of the first name. -/
theorem table_search {α : Type} {entries : List (String × α)} {f : String × α → Option LoadError}
    {Fault : String → LoadError → Prop} (faults : ∀ name e, Fault name e ↔
      ∃ entry, lastOf? entries name = some entry ∧ f (name, entry) = some e) :
    (∀ e, (ofLast nameLt entries).findSome? f = some e ↔
      ∃ name, Fault name e ∧ ∀ name' e', Fault name' e' → name ≤ name') ∧
    ((ofLast nameLt entries).findSome? f = none ↔ ∀ name e, ¬Fault name e) := by
  have ascending := ascending_ofLast strict_nameLt (sortable_nameLt entries)
  refine ⟨fun e => ?_, ?_⟩
  · rw [findSome?_eq_some_of_ascending ascending]
    constructor
    · rintro ⟨⟨name, entry⟩, mem, found, least⟩
      have fault := (faults ..).mpr ⟨entry, mem_ofLast_names.mp mem, found⟩
      refine ⟨name, fault, fun name' e' other => ?_⟩
      obtain ⟨entry', last, there⟩ := (faults ..).mp other
      exact least (name', entry') (mem_ofLast_names.mpr last) (by simp [there])
    · rintro ⟨name, fault, least⟩
      obtain ⟨entry, last, found⟩ := (faults ..).mp fault
      refine ⟨(name, entry), mem_ofLast_names.mpr last, found, fun y mem some => ?_⟩
      obtain ⟨e', there⟩ := Option.ne_none_iff_exists'.mp some
      exact least y.1 e' ((faults ..).mpr ⟨y.2, mem_ofLast_names.mp mem, there⟩)
  · rw [List.findSome?_eq_none_iff]
    constructor
    · intro none name e fault
      obtain ⟨entry, last, found⟩ := (faults ..).mp fault
      simp [none _ (mem_ofLast_names.mpr last)] at found
    · intro none x mem
      by_contra some
      obtain ⟨e, found⟩ := Option.ne_none_iff_exists'.mp some
      exact none x.1 e ((faults ..).mpr ⟨x.2, mem_ofLast_names.mp mem, found⟩)

namespace Document
variable {d : Document} {e : LoadError}

/-- The first error of each check, in name order. -/
def search (d : Document) : Nat → Option LoadError
  | 0 => (ofLast nameLt d.shapes).findSome? fun x => fault? (x.2.toShape x.1)
  | 1 => (ofLast nameLt d.operations).findSome? fun x => fault? (x.2.toOperation x.1)
  | 2 => (ofLast nameLt d.shapes).findSome? fun x =>
    (d.dangling? (x.2.references x.1)).map fun r => .danglingReference r.1 r.2
  | 3 => (ofLast nameLt d.operations).findSome? fun x =>
    (d.dangling? (x.2.references x.1)).map fun r => .danglingReference r.1 r.2
  | _ => none

theorem search_eq (check : Nat) :
    (∀ e, d.search check = some e ↔
      ∃ name, d.Fault check name e ∧ ∀ name' e', d.Fault check name' e' → name ≤ name') ∧
    (d.search check = none ↔ ∀ name e, ¬d.Fault check name e) := by
  match check with
  | 0 =>
    refine table_search fun name e => ⟨?_, ?_⟩
    · intro fault
      cases fault with
      | shape last fails => exact ⟨_, last, fault?_eq_some.mpr fails⟩
    · rintro ⟨entry, last, fails⟩
      exact .shape last (fault?_eq_some.mp fails)
  | 1 =>
    refine table_search fun name e => ⟨?_, ?_⟩
    · intro fault
      cases fault with
      | operation last unknown =>
        exact ⟨_, last, OperationEntry.fault?_toOperation.mpr ⟨unknown, rfl⟩⟩
    · rintro ⟨entry, last, fails⟩
      obtain ⟨unknown, rfl⟩ := OperationEntry.fault?_toOperation.mp fails
      exact .operation last unknown
  | 2 =>
    refine table_search fun name e => ⟨?_, ?_⟩
    · intro fault
      cases fault with
      | shapeReference last first => exact ⟨_, last, Option.map_eq_some_iff.mpr ⟨_, first, rfl⟩⟩
    · rintro ⟨entry, last, dangles⟩
      obtain ⟨r, first, rfl⟩ := Option.map_eq_some_iff.mp dangles
      exact .shapeReference last first
  | 3 =>
    refine table_search fun name e => ⟨?_, ?_⟩
    · intro fault
      cases fault with
      | operationReference last first =>
        exact ⟨_, last, Option.map_eq_some_iff.mpr ⟨_, first, rfl⟩⟩
    · rintro ⟨entry, last, dangles⟩
      obtain ⟨r, first, rfl⟩ := Option.map_eq_some_iff.mp dangles
      exact .operationReference last first
  | check + 4 =>
    have none : ∀ name e, ¬d.Fault (check + 4) name e := by rintro _ _ ⟨⟩
    simp [search, none]

theorem firstFault_iff : d.FirstFault e ↔
    ((((d.search 0).or (d.search 1)).or (d.search 2)).or (d.search 3)) = some e := by
  have first : d.FirstFault e ↔
      ∃ check, d.search check = some e ∧ ∀ check' < check, d.search check' = none := by
    constructor
    · rintro ⟨check, name, fault, least⟩
      refine ⟨check, ((search_eq check).1 e).mpr ⟨name, fault, fun name' e' other => ?_⟩,
        fun check' before => (search_eq check').2.mpr fun name' e' other => ?_⟩
      · rcases least check name' e' other with later | ⟨-, le⟩
        · omega
        · exact le
      · rcases least check' name' e' other with later | ⟨same, -⟩ <;> omega
    · rintro ⟨check, found, before⟩
      obtain ⟨name, fault, least⟩ := ((search_eq check).1 e).mp found
      refine ⟨check, name, fault, fun check' name' e' other => ?_⟩
      rcases Nat.lt_trichotomy check check' with later | rfl | earlier
      · exact .inl later
      · exact .inr ⟨rfl, least name' e' other⟩
      · exact absurd other ((search_eq check').2.mp (before check' earlier) name' e')
  rw [first]
  constructor
  · rintro ⟨check, found, before⟩
    match check with
    | 0 => simp [found]
    | 1 => simp [found, before 0]
    | 2 => simp [found, before 0, before 1]
    | 3 => simp [found, before 0, before 1, before 2]
    | check + 4 => cases found
  · intro found
    simp only [Option.or_eq_some_iff, Option.or_eq_none_iff] at found
    rcases found with ((found | ⟨shapes, found⟩) | ⟨⟨shapes, operations⟩, found⟩) |
      ⟨⟨⟨shapes, operations⟩, references⟩, found⟩
    · exact ⟨0, found, by omega⟩
    · exact ⟨1, found, by rintro (_ | _) before <;> first | assumption | omega⟩
    · exact ⟨2, found, by rintro (_ | _ | _) before <;> first | assumption | omega⟩
    · exact ⟨3, found, by rintro (_ | _ | _ | _) before <;> first | assumption | omega⟩

end Document

namespace Service

section References
variable {d : Document} {s : Service}
  (shaped : List.Forall₂ (fun e shape => e.2.toShape e.1 = .ok shape) (ofLast nameLt d.shapes)
    s.shapes)
  (named : List.Forall₂ (fun e o => e.2.toOperation e.1 = .ok o) (ofLast nameLt d.operations)
    s.operations)

include shaped in
theorem shape_references : (s.shapes.flatMap fun shape =>
      shape.parts.map fun (part, member) => (s!"{shape.name}.{part}", member.shape)) =
    (ofLast nameLt d.shapes).flatMap fun x => x.2.references x.1 := by
  rw [List.flatMap_def, List.flatMap_def]
  refine congrArg List.flatten (map_eq_map (shaped.imp fun x shape made => ?_))
  obtain ⟨own, denoted⟩ := ShapeEntry.denotes_of_toShape made
  have parts := congrArg (List.map fun part => (s!"{x.1}.{part.1}", part.2)) denoted.kind.parts
  rw [List.map_map, List.map_map] at parts
  rw [own]
  exact parts.symm

include named in
theorem operation_references : (s.operations.flatMap fun o =>
      o.parts.map fun (part, shape) => (s!"operation {o.name} {part}", shape)) =
    (ofLast nameLt d.operations).flatMap fun x => x.2.references x.1 := by
  rw [List.flatMap_def, List.flatMap_def]
  refine congrArg List.flatten (map_eq_map (named.imp fun x o made => ?_))
  obtain ⟨own, denoted⟩ := OperationEntry.toOperation_eq_ok.mp made
  rw [own, OperationEntry.references, Operation.parts, denoted.input, denoted.output]

include shaped named in
theorem fault?_checkReferences : fault? s.checkReferences = (d.search 2).or (d.search 3) := by
  have undefined : (fun r : String × String => !s.defines r.2) =
      fun r => decide (r.2 ∉ keys d.shapes) := by
    funext r
    have names := (table_made ShapeEntry.toShape ShapeEntry.denotes_of_toShape shaped).1 r.2
    rw [Bool.eq_iff_iff, Bool.not_eq_true', Bool.eq_false_iff, decide_eq_true_eq, ← names,
      ← defines_iff]
  have found : fault? s.checkReferences =
      (d.dangling? s.references).map fun r => .danglingReference r.1 r.2 := by
    rw [Document.dangling?, ← undefined, checkReferences]
    split
    · rename_i owner target first
      have here : (s.references.find? fun r => !s.defines r.2) = some (owner, target) := first
      rw [here]
      rfl
    · rename_i absent
      have here : (s.references.find? fun r => !s.defines r.2) = none := absent
      rw [here]
      rfl
  rw [found, references, shape_references shaped, operation_references named, Document.dangling?,
    List.find?_append, Option.map_or, List.find?_flatMap, List.find?_flatMap, List.map_findSome?,
    List.map_findSome?]
  rfl

end References

theorem fault?_ofDocument (d : Document) : fault? (ofDocument d) =
    ((((d.search 0).or (d.search 1)).or (d.search 2)).or (d.search 3)) := by
  have shapesSearched : fault? ((ofLast nameLt d.shapes).mapM fun x => x.2.toShape x.1) =
      d.search 0 := fault?_mapM ..
  have operationsSearched :
      fault? ((ofLast nameLt d.operations).mapM fun x => x.2.toOperation x.1) = d.search 1 :=
    fault?_mapM ..
  rw [← shapesSearched, ← operationsSearched, ofDocument]
  cases shaped : (ofLast nameLt d.shapes).mapM fun x => x.2.toShape x.1 with
  | error e => rfl
  | ok shapes =>
    cases named : (ofLast nameLt d.operations).mapM fun x => x.2.toOperation x.1 with
    | error e => rfl
    | ok operations =>
      let s : Service := ⟨d.metadata, operations, shapes⟩
      have searched : fault? s.checkReferences = (d.search 2).or (d.search 3) :=
        fault?_checkReferences (mapM_eq_ok.mp shaped) (mapM_eq_ok.mp named)
      have last : fault? (s.checkReferences >>= fun _ => .ok s) = fault? s.checkReferences := by
        cases s.checkReferences <;> rfl
      rw [Option.or_assoc, ← searched, ← last]
      rfl

theorem load_eq_of_permuted {text text' : String} {d d' : Document}
    (reads : Document.parse text = .ok d) (reads' : Document.parse text' = .ok d')
    (metadata : d.metadata = d'.metadata)
    (shapes : (unshadowed d.shapes).Perm (unshadowed d'.shapes))
    (operations : (unshadowed d.operations).Perm (unshadowed d'.operations)) :
    load text = load text' ∧ (∀ e, load text = .error e ↔ d.FirstFault e) ∧
      ∀ config, (load text).map (Generator.generate · config) =
        (load text').map (Generator.generate · config) := by
  have same : load text = load text' := by
    rw [load_eq reads, load_eq reads', ofDocument, ofDocument, metadata, ofLast_eq_of_perm shapes,
      ofLast_eq_of_perm operations]
  refine ⟨same, fun e => ?_, fun config => by rw [same]⟩
  rw [load_eq reads, ← fault?_eq_some, fault?_ofDocument, Document.firstFault_iff]

deriving instance DecidableEq for MemberEntry, ShapeEntry, HttpEntry, OperationEntry, Document

/-- A description with several faults and an entry that is replaced. -/
def faultyText : String :=
  "\x7b\"metadata\":[\"items\"],\"operations\":\x7b\"Put\":[[\"send\"]],\"Get\":[[\"take\"]]\x7d,
    \"shapes\":\x7b\"Item\":[\"list\"],\"Text\":[\"union\"],
    \"Item\":[\"list\",null,[],null,[\"None\"]],\"Name\":[\"tuple\"]\x7d\x7d"

def faulty : Document where
  metadata := { endpointPrefix := "items" }
  operations :=
    [ ("Put", { http := { method := "send" } }), ("Get", { http := { method := "take" } }) ]
  shapes :=
    [ ("Item", { type := "list" }), ("Text", { type := "union" }),
      ("Item", { type := "list", member := some { shape := "None" } }),
      ("Name", { type := "tuple" }) ]

/-- The same entries in another order, without the one that is replaced. -/
def shuffledText : String :=
  "\x7b\"metadata\":[\"items\"],\"operations\":\x7b\"Get\":[[\"take\"]],\"Put\":[[\"send\"]]\x7d,
    \"shapes\":\x7b\"Text\":[\"union\"],\"Name\":[\"tuple\"],
    \"Item\":[\"list\",null,[],null,[\"None\"]]\x7d\x7d"

def shuffled : Document where
  metadata := { endpointPrefix := "items" }
  operations :=
    [ ("Get", { http := { method := "take" } }), ("Put", { http := { method := "send" } }) ]
  shapes :=
    [ ("Text", { type := "union" }), ("Name", { type := "tuple" }),
      ("Item", { type := "list", member := some { shape := "None" } }) ]

theorem parse_ofList {chars : List Char} {d : Document}
    (read : (Json.readBytes Document.read (chars.flatMap String.utf8EncodeChar)).toOption =
      some d) : Document.parse (String.ofList chars) = .ok d := by
  refine Generator.eq_ok_of_toOption ?_
  rw [← read, Document.parse, Text.utf8, String.toList_ofList]

set_option maxRecDepth 4000 in
theorem parse_faultyText : Document.parse faultyText = .ok faulty :=
  parse_ofList (by decide +kernel)

set_option maxRecDepth 4000 in
theorem parse_shuffledText : Document.parse shuffledText = .ok shuffled :=
  parse_ofList (by decide +kernel)

theorem load_faultyText_eq : Document.parse faultyText = .ok faulty ∧
    Document.parse shuffledText = .ok shuffled ∧ faulty.metadata = shuffled.metadata ∧
    (unshadowed faulty.shapes).Perm (unshadowed shuffled.shapes) ∧
    (unshadowed faulty.operations).Perm (unshadowed shuffled.operations) ∧
    load faultyText = load shuffledText ∧
    load faultyText = .error (.unknownShapeKind "Name" "tuple") := by
  have shapes : (unshadowed faulty.shapes).Perm (unshadowed shuffled.shapes) := by decide
  have operations : (unshadowed faulty.operations).Perm (unshadowed shuffled.operations) := by
    decide
  obtain ⟨same, first, -⟩ :=
    load_eq_of_permuted parse_faultyText parse_shuffledText rfl shapes operations
  exact ⟨parse_faultyText, parse_shuffledText, rfl, shapes, operations, same,
    (first _).mpr (Document.firstFault_iff.mpr (by decide))⟩

end Service
end ServiceClient.Schema
