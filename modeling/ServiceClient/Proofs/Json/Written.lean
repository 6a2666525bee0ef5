import ServiceClient.Json.Value
import ServiceClient.Proofs.Data.SortedMap

/-! The value that a text writes has all members of its objects, in the order of the text. Reading
keeps the first of each name, object by object from within, and fails where the text is at fault,
whatever it keeps. -/

namespace ServiceClient.Json.Value
open ServiceClient.SortedMap

mutual

/-- The value of a tree with every member of its objects, repeated keys included. -/
def written (depth : Nat) : Tree → Except ReadError Value
  | .null => .ok .null
  | .bool b => .ok (.bool b)
  | .number l => do .ok (.number (← (Numeral.ofLiteral l).mapError .defect))
  | .string s => do .ok (.string (← spelled s))
  | .array items close => do
    if depth = 0 then .error (.defect .malformed)
    let values ← writtenItems (depth - 1) items
    closed close
    .ok (.array values)
  | .object entries close => do
    if depth = 0 then .error (.defect .malformed)
    let values ← writtenEntries (depth - 1) entries
    closed close
    .ok (.object values)
  | .broken fault => .error (.defect fault.read)

def writtenItems (depth : Nat) : List Tree → Except ReadError (List Value)
  | [] => .ok []
  | t :: rest => do
    let value ← written depth t
    let values ← writtenItems depth rest
    .ok (value :: values)

def writtenEntries (depth : Nat) :
    List (Spelling × Tree) → Except ReadError (List (String × Value))
  | [] => .ok []
  | (key, t) :: rest => do
    let name ← spelled key
    let value ← written depth t
    let values ← writtenEntries depth rest
    .ok ((name, value) :: values)

end

/-- The value that a body writes. One of white space alone writes an object without members. -/
def writtenBody (bytes : List UInt8) : Except ReadError Value :=
  if bytes.all fun b => b == 0x20 || b == 9 || b == 10 || b == 12 || b == 13 then .ok (.object [])
  else readBytes (written maxDepth) bytes

/-- The value of a body by its characters, which unification takes from a literal. -/
theorem writtenBody_ofList {chars : List Char} {v : Value}
    (writes : writtenBody (chars.flatMap String.utf8EncodeChar) = .ok v) :
    writtenBody (Text.utf8 (String.ofList chars)) = .ok v := by
  rw [Text.utf8, String.toList_ofList, writes]

section Settling
variable (keep : List (String × Value) → List (String × Value))

mutual

/-- A value with what is kept of the members of every object. -/
def settle : Value → Value
  | array items => array (settleItems items)
  | object entries => object (keep (settleEntries entries))
  | v => v

def settleItems : List Value → List Value
  | [] => []
  | v :: items => settle v :: settleItems items

def settleEntries : List (String × Value) → List (String × Value)
  | [] => []
  | (name, v) :: entries => (name, settle v) :: settleEntries entries

end

variable {keep}

theorem settleItems_eq_map (items : List Value) :
    settleItems keep items = items.map (settle keep) := by
  induction items with
  | nil => rfl
  | cons v items ih => rw [settleItems, ih, List.map_cons]

theorem settleEntries_eq_map (entries : List (String × Value)) :
    settleEntries keep entries = entries.map fun e => (e.1, settle keep e.2) := by
  induction entries with
  | nil => rfl
  | cons e entries ih => rw [settleEntries, ih, List.map_cons]

theorem lookup_settleEntries (entries : List (String × Value)) (name : String) :
    (settleEntries keep entries).lookup name = (entries.lookup name).map (settle keep) := by
  induction entries with
  | nil => rfl
  | cons e entries ih =>
    rw [settleEntries, List.lookup_cons, List.lookup_cons, ih]
    split <;> rfl

end Settling

/-- What the reader keeps of an object: the first member of every name, in the order of names. -/
abbrev firstMembers (entries : List (String × Value)) : List (String × Value) :=
  ofFirst nameLt entries

mutual

theorem ofTree_eq (depth : Nat) :
    (t : Tree) → ofTree depth t = (written depth t).map (settle firstMembers)
  | .null => rfl
  | .bool _ => rfl
  | .number l => by
    rw [ofTree, written]
    cases (Numeral.ofLiteral l).mapError ReadError.defect <;> rfl
  | .string s => by
    rw [ofTree, written]
    cases spelled s <;> rfl
  | .array items close => by
    rw [ofTree, written, ofItems_eq]
    split
    · rfl
    · cases writtenItems (depth - 1) items with
      | error e => rfl
      | ok values => cases close <;> rfl
  | .object entries close => by
    rw [ofTree, written, ofEntries_eq]
    split
    · rfl
    · cases writtenEntries (depth - 1) entries with
      | error e => rfl
      | ok values => cases close <;> rfl
  | .broken _ => rfl

theorem ofItems_eq (depth : Nat) : (items : List Tree) →
    ofItems depth items = (writtenItems depth items).map (settleItems firstMembers)
  | [] => rfl
  | t :: rest => by
    rw [ofItems, writtenItems, ofTree_eq depth t, ofItems_eq depth rest]
    cases written depth t with
    | error e => rfl
    | ok v => cases writtenItems depth rest <;> rfl

theorem ofEntries_eq (depth : Nat) : (entries : List (Spelling × Tree)) →
    ofEntries depth entries = (writtenEntries depth entries).map (settleEntries firstMembers)
  | [] => rfl
  | (key, t) :: rest => by
    rw [ofEntries, writtenEntries, ofTree_eq depth t, ofEntries_eq depth rest]
    cases spelled key with
    | error e => rfl
    | ok name =>
      cases written depth t with
      | error e => rfl
      | ok v => cases writtenEntries depth rest <;> rfl

end

/-- A body is read to what is kept of the value that it writes. -/
theorem ofBody_eq (bytes : List UInt8) :
    ofBody bytes = (writtenBody bytes).map (settle firstMembers) := by
  rw [ofBody, writtenBody]
  split
  · rfl
  · rw [ofBytes, readBytes, readBytes, Source.read, Source.read, ofTree_eq]
    cases written maxDepth (Source.ofBytes bytes).tree with
    | error e => rfl
    | ok v =>
      simp only [Except.map, bind, Except.bind]
      split <;> rfl

def isNull : Value → Bool
  | null => true
  | _ => false

theorem isNull_eq_true_iff {v : Value} : v.isNull = true ↔ v = .null := by
  cases v <;> simp [isNull]

theorem isNull_settle (keep : List (String × Value) → List (String × Value)) (v : Value) :
    (settle keep v).isNull = v.isNull := by
  cases v <;> rfl

/-- What counts as present under a name. -/
def present? (entries : List (String × Value)) (name : String) : Option Value :=
  (entries.lookup name).filter fun v => !v.isNull

section Lookup
variable {entries before after : List (String × Value)} {name other : String} {v : Value}

theorem lookup_eq_none_of_not_mem (fresh : name ∉ keys entries) : entries.lookup name = none :=
  List.lookup_eq_none_iff.mpr fun _ mem => bne_iff_ne.mpr fun same =>
    fresh (same ▸ List.mem_map_of_mem mem)

theorem lookup_isSome_of_mem (met : name ∈ keys entries) : (entries.lookup name).isSome := by
  obtain ⟨e, mem, rfl⟩ := List.mem_map.mp met
  rw [Option.isSome_iff_ne_none, ne_eq, List.lookup_eq_none_iff]
  exact fun absent => bne_iff_ne.mp (absent e mem) rfl

theorem lookup_member (v : Value) : (before ++ (name, v) :: after).lookup other =
    (before.lookup other).or (if other = name then some v else after.lookup other) := by
  rw [List.lookup_append, List.lookup_cons]
  by_cases same : other = name
  · simp [same]
  · simp [same, beq_eq_false_iff_ne.mpr same]

theorem present?_of_other (different : other ≠ name) :
    present? (before ++ (name, v) :: after) other = present? (before ++ after) other := by
  rw [present?, present?, lookup_member, if_neg different, ← List.lookup_append]

theorem present?_of_fresh (fresh : name ∉ keys (before ++ after)) :
    present? (before ++ (name, .null) :: after) other = present? (before ++ after) other := by
  by_cases same : other = name
  · have absent := lookup_eq_none_of_not_mem fresh
    rw [List.lookup_append, Option.or_eq_none_iff] at absent
    simp [present?, List.lookup_append, same, absent, isNull]
  · exact present?_of_other same

theorem present?_of_met (met : name ∈ keys before) :
    present? (before ++ (name, v) :: after) other = present? (before ++ after) other := by
  by_cases same : other = name
  · obtain ⟨u, found⟩ := Option.isSome_iff_exists.mp (lookup_isSome_of_mem met)
    simp [present?, List.lookup_append, same, found]
  · exact present?_of_other same

/-- The value of one member matters to one name at most. -/
theorem present?_member (before after : List (String × Value)) (name other : String) :
    (∃ part, ∀ v, present? (before ++ (name, v) :: after) other = part) ∨
    other = name ∧ ∀ v, present? (before ++ (name, v) :: after) other =
      if v.isNull then none else some v := by
  cases found : before.lookup other with
  | some u => exact .inl ⟨_, fun v => by rw [present?, lookup_member, found, Option.some_or]⟩
  | none =>
    by_cases same : other = name
    · refine .inr ⟨same, fun v => ?_⟩
      rw [present?, lookup_member, found, Option.none_or, if_pos same, Option.filter_some]
      cases v.isNull <;> rfl
    · exact .inl ⟨_, fun v => by rw [present?_of_other same]⟩

/-- Reading keeps what is present. -/
theorem present?_firstMembers (entries : List (String × Value)) (name : String) :
    present? (firstMembers (settleEntries firstMembers entries)) name =
      (present? entries name).map (settle firstMembers) := by
  rw [present?, present?, lookup_ofFirst strict_nameLt (sortable_nameLt _), lookup_settleEntries,
    Option.filter_map]
  simp only [Function.comp_def, isNull_settle]

end Lookup

end ServiceClient.Json.Value
