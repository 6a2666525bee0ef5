import ServiceClient.Proofs.Markup.Rendering

/-! What an encoder does itself for a value: parts that it writes, and parts that it hands to other
encoders with the names of their parameters. Elements and entries never share a name; members do not
if their wire names differ, and the key and value of an entry exactly if theirs do. -/

namespace ServiceClient.Codec
open ServiceClient.Wire
open ServiceClient.Markup (toList_joinPath dot_not_mem_index)

/-- One part of a value. -/
inductive Piece where
  | own (write : Write)
  | below (type path : String) (value : Value)

/-- The parameter that a part goes to, or the name that its parameters have in front. -/
def Piece.path? : Piece → Option String
  | .own (.param name _) => some name
  | .own _ => none
  | .below _ path _ => some path

/-- The elements from number `n` on. -/
def itemPieces (element name : String) (n : Nat) : List Value → List Piece
  | [] => []
  | v :: items =>
    .below element (joinPath name (indexText n)) v :: itemPieces element name (n + 1) items

/-- The keys and values from number `n` on. -/
def entryPieces (key value keyWire valueWire name : String) (n : Nat) :
    List (Scalar × Value) → List Piece
  | [] => []
  | (k, v) :: entries =>
    let entry := joinPath name (indexText n)
    .below key (joinPath entry keyWire) (.scalar k) ::
      .below value (joinPath entry valueWire) v ::
        entryPieces key value keyWire valueWire name (n + 1) entries

/-- Nothing for a member that may be absent and is. -/
def memberPiece (name : String) (f : FieldWrite) : Option Value → Option (List Piece)
  | none => if f.required then none else some []
  | some v =>
    match f.target with
    | .nested type wire => some [.below type (joinPath name wire) v]
    | target =>
      match v with
      | .scalar s => (target.write? s).map ([.own ·])
      | _ => none

def memberPieces (name : String) :
    List FieldWrite → List (String × Option Value) → Option (List Piece)
  | [], [] => some []
  | f :: plan, (field, value) :: fields =>
    if f.field ≠ field then none
    else do
      let first ← memberPiece name f value
      let rest ← memberPieces name plan fields
      some (first ++ rest)
  | _, _ => none

/-- The parts of a value called `name`; absent where it is not of the type. -/
def EncoderBody.pieces (name : String) : EncoderBody → Value → Option (List Piece)
  | .scalar, .scalar v => some [.own (.param name v.toText)]
  | .list element, .list items => some (itemPieces element name 1 items)
  | .map key value keyWire valueWire, .map entries =>
    some (entryPieces key value keyWire valueWire name 1 entries)
  | .struct plan, .struct fields => memberPieces name plan fields
  | _, _ => none

def Target.isQuery : Target → Bool
  | .queryParam _ => true
  | _ => false

/-- Whether a member of the value goes to a parameter of its own name, wherever the value stands. -/
def EncoderBody.hasQuery : EncoderBody → Bool
  | .struct plan => plan.any (·.target.isQuery)
  | _ => false

/-- No two parts of a value share a parameter: of one at the top, where names begin, or of one
without query parameters at any place. -/
def EncoderBody.PartsApart (body : EncoderBody) : Prop :=
  ∀ (name : String) (v : Value) (pieces : List Piece), name = "" ∨ body.hasQuery = false →
    body.pieces name v = some pieces → (pieces.filterMap Piece.path?).Nodup

namespace Module
variable (m : Module)

def pieceWrites : Piece → Option (List Write)
  | .own write => some [write]
  | .below type path v => m.writes type path v

def piecesWrites : List Piece → Option (List Write)
  | [] => some []
  | p :: pieces => do
    let first ← m.pieceWrites p
    let rest ← piecesWrites pieces
    some (first ++ rest)

variable {m}

theorem piecesWrites_append (first rest : List Piece) :
    m.piecesWrites (first ++ rest) =
      (m.piecesWrites first).bind fun ws => (m.piecesWrites rest).bind fun ws' =>
        some (ws ++ ws') := by
  induction first with
  | nil => simp [piecesWrites]
  | cons p first ih =>
    simp only [List.cons_append, piecesWrites, ih]
    cases m.pieceWrites p <;> cases m.piecesWrites first <;> cases m.piecesWrites rest <;> simp

theorem exists_piecesWrites {pieces : List Piece}
    (each : ∀ p ∈ pieces, ∃ own, m.pieceWrites p = some own) :
    ∃ ws, m.piecesWrites pieces = some ws := by
  induction pieces with
  | nil => exact ⟨[], rfl⟩
  | cons p pieces ih =>
    obtain ⟨first, own⟩ := each p List.mem_cons_self
    obtain ⟨rest, others⟩ := ih fun q mem => each q (List.mem_cons_of_mem _ mem)
    exact ⟨first ++ rest, by simp [piecesWrites, own, others]⟩

theorem exists_piece_of_write {pieces : List Piece} {ws : List Write}
    (made : m.piecesWrites pieces = some ws) {w : Write} (mem : w ∈ ws) :
    ∃ p ∈ pieces, ∃ own, m.pieceWrites p = some own ∧ w ∈ own := by
  induction pieces generalizing ws with
  | nil =>
    cases made
    cases mem
  | cons p pieces ih =>
    obtain ⟨first, own, made⟩ := Option.bind_eq_some_iff.mp made
    obtain ⟨rest, others, ⟨⟩⟩ := Option.bind_eq_some_iff.mp made
    rcases List.mem_append.mp mem with mem | mem
    · exact ⟨p, List.mem_cons_self, first, own, mem⟩
    · obtain ⟨q, here, inside⟩ := ih others mem
      exact ⟨q, List.mem_cons_of_mem _ here, inside⟩

theorem exists_writes_of_piece {pieces : List Piece} {ws : List Write}
    (made : m.piecesWrites pieces = some ws) {p : Piece} (mem : p ∈ pieces) :
    ∃ own, m.pieceWrites p = some own ∧ own ⊆ ws := by
  induction pieces generalizing ws with
  | nil => cases mem
  | cons q pieces ih =>
    obtain ⟨first, own, made⟩ := Option.bind_eq_some_iff.mp made
    obtain ⟨rest, others, ⟨⟩⟩ := Option.bind_eq_some_iff.mp made
    rcases List.mem_cons.mp mem with rfl | mem
    · exact ⟨first, own, List.subset_append_left ..⟩
    · obtain ⟨own, made, inside⟩ := ih others mem
      exact ⟨own, made, List.Subset.trans inside (List.subset_append_right ..)⟩

theorem itemWrites_eq (element name : String) (n : Nat) (items : List Value) :
    m.itemWrites element name n items = m.piecesWrites (itemPieces element name n items) := by
  induction items generalizing n with
  | nil => simp [itemWrites, itemPieces, piecesWrites]
  | cons v items ih => simp [itemWrites, itemPieces, piecesWrites, pieceWrites, ih]

theorem entryWrites_eq (key value keyWire valueWire name : String) (n : Nat)
    (entries : List (Scalar × Value)) :
    m.entryWrites key value keyWire valueWire name n entries =
      m.piecesWrites (entryPieces key value keyWire valueWire name n entries) := by
  induction entries generalizing n with
  | nil => simp [entryWrites, entryPieces, piecesWrites]
  | cons e entries ih =>
    obtain ⟨k, v⟩ := e
    simp only [entryWrites, entryPieces, piecesWrites, pieceWrites, ih, writes]
    cases m.encoderBody? key with
    | none => rfl
    | some body => cases body <;> simp [Option.bind_assoc]

theorem memberWrites_eq (name : String) (f : FieldWrite) (value : Option Value) :
    m.memberWrites name f value = (memberPiece name f value).bind m.piecesWrites := by
  cases value with
  | none => cases required : f.required <;> simp [memberWrites, memberPiece, required, piecesWrites]
  | some v =>
    cases target : f.target <;> cases v <;>
      simp [memberWrites, memberPiece, target, Target.write?, piecesWrites, pieceWrites]

theorem fieldWrites_eq (name : String) (plan : List FieldWrite)
    (fields : List (String × Option Value)) :
    m.fieldWrites name plan fields = (memberPieces name plan fields).bind m.piecesWrites := by
  induction plan generalizing fields with
  | nil => cases fields <;> simp [fieldWrites, memberPieces, piecesWrites]
  | cons f plan ih =>
    cases fields with
    | nil => simp [fieldWrites, memberPieces]
    | cons entry fields =>
      obtain ⟨field, value⟩ := entry
      simp only [fieldWrites, memberPieces, memberWrites_eq, ih]
      split
      · rfl
      · cases memberPiece name f value with
        | none => simp
        | some first =>
          cases memberPieces name plan fields with
          | none => simp
          | some rest => simp [piecesWrites_append]

/-- Running an encoder is writing the parts of the value in turn. -/
theorem writes_eq (type name : String) (v : Value) :
    m.writes type name v =
      (m.encoderBody? type).bind fun body => (body.pieces name v).bind m.piecesWrites := by
  cases v with
  | scalar v =>
    rw [writes]
    rcases m.encoderBody? type with _ | _ | _ | _ | _ <;>
      simp [EncoderBody.pieces, piecesWrites, pieceWrites]
  | list items =>
    rw [writes]
    rcases m.encoderBody? type with _ | _ | _ | _ | _ <;>
      simp [EncoderBody.pieces, itemWrites_eq]
  | map entries =>
    rw [writes]
    rcases m.encoderBody? type with _ | _ | _ | _ | _ <;>
      simp [EncoderBody.pieces, entryWrites_eq]
  | struct fields =>
    rw [writes]
    rcases m.encoderBody? type with _ | _ | _ | _ | _ <;>
      simp [EncoderBody.pieces, fieldWrites_eq]

/-- An encoder runs through when it does so on each part of the value, and writes no more than it
writes for the parts. -/
theorem exists_writes_of_pieces {type name : String} {v : Value} {body : EncoderBody}
    {pieces : List Piece} (own : m.encoderBody? type = some body)
    (made : body.pieces name v = some pieces) {Allowed : Write → Prop}
    (each : ∀ p ∈ pieces, ∃ ws, m.pieceWrites p = some ws ∧ ∀ w ∈ ws, Allowed w) :
    ∃ ws, m.writes type name v = some ws ∧ ∀ w ∈ ws, Allowed w := by
  obtain ⟨ws, written⟩ := exists_piecesWrites fun p mem => (each p mem).imp fun _ => And.left
  refine ⟨ws, by rw [writes_eq, own, Option.bind_some, made, Option.bind_some, written], ?_⟩
  intro w mem
  obtain ⟨p, here, own', made', inside⟩ := exists_piece_of_write written mem
  obtain ⟨ws', made'', allowed⟩ := each p here
  cases made'.symm.trans made''
  exact allowed w inside

end Module

section Paths
variable {name : String}

theorem joinPath_empty (segment : String) : joinPath "" segment = segment := rfl

theorem joinPath_inj {a b : String} (same : joinPath name a = joinPath name b) : a = b := by
  unfold joinPath at same
  split at same
  · exact same
  · exact (String.append_right_inj _).mp same

theorem natural?_indexText (n : Nat) : Number.natural? (indexText n).toList = some n := by
  rw [indexText, Nat.toString_eq_repr, Nat.toList_repr, Number.natural?_toDigits]

theorem indexText_inj {i j : Nat} (same : indexText i = indexText j) : i = j :=
  Option.some.inj ((natural?_indexText i).symm.trans (same ▸ natural?_indexText j))

theorem indexText_ne_empty (n : Nat) : indexText n ≠ "" := by
  intro empty
  have digits := congrArg String.toList empty
  rw [indexText, Nat.toString_eq_repr, Nat.toList_repr] at digits
  exact Nat.toDigits_ne_nil digits

/-- What stands in front of the first dot, and behind it. -/
theorem append_dot_inj {xs ys as bs : List Char} (left : '.' ∉ xs) (right : '.' ∉ ys)
    (same : xs ++ '.' :: as = ys ++ '.' :: bs) : xs = ys ∧ as = bs := by
  induction xs generalizing ys with
  | nil =>
    cases ys with
    | nil => exact ⟨rfl, List.tail_eq_of_cons_eq same⟩
    | cons y ys => exact absurd (List.head_eq_of_cons_eq same ▸ List.mem_cons_self) right
  | cons x xs ih =>
    cases ys with
    | nil => exact absurd (List.head_eq_of_cons_eq same ▸ List.mem_cons_self) left
    | cons y ys =>
      obtain ⟨rfl, rest⟩ := List.cons.inj same
      obtain ⟨rfl, behind⟩ := ih (fun mem => left (List.mem_cons_of_mem _ mem))
        (fun mem => right (List.mem_cons_of_mem _ mem)) rest
      exact ⟨rfl, behind⟩

theorem joinPath_ne_empty_of_name (filled : name ≠ "") (a : String) : joinPath name a ≠ "" := by
  intro empty
  have chars := toList_joinPath filled a
  simp [empty] at chars

theorem joinPath_ne_empty_of_segment {a : String} (filled : a ≠ "") : joinPath name a ≠ "" := by
  by_cases top : name = ""
  · rwa [top, joinPath_empty]
  · exact joinPath_ne_empty_of_name top a

/-- Names may be joined from either end. -/
theorem joinPath_joinPath {a : String} (filled : a ≠ "") (name b : String) :
    joinPath (joinPath name a) b = joinPath name (joinPath a b) := by
  by_cases top : name = ""
  · rw [top, joinPath_empty, joinPath_empty]
  · apply String.toList_injective
    rw [toList_joinPath (joinPath_ne_empty_of_segment filled), toList_joinPath top,
      toList_joinPath top, toList_joinPath filled, List.append_assoc, List.cons_append]

theorem joinPath_entry_inj {i j : Nat} {a b : String}
    (same : joinPath (joinPath name (indexText i)) a = joinPath (joinPath name (indexText j)) b) :
    i = j ∧ a = b := by
  -- A number has no dot, so that it is what stands in front of the first one.
  rw [joinPath_joinPath (indexText_ne_empty i), joinPath_joinPath (indexText_ne_empty j)] at same
  have chars := congrArg String.toList (joinPath_inj same)
  rw [toList_joinPath (indexText_ne_empty i), toList_joinPath (indexText_ne_empty j)] at chars
  obtain ⟨index, rest⟩ := append_dot_inj (dot_not_mem_index i) (dot_not_mem_index j) chars
  exact ⟨indexText_inj (String.toList_injective index), String.toList_injective rest⟩

end Paths

theorem itemPieces_paths (element name : String) (n : Nat) (items : List Value) :
    (itemPieces element name n items).filterMap Piece.path? =
      (List.range' n items.length).map fun i => joinPath name (indexText i) := by
  induction items generalizing n with
  | nil => rfl
  | cons v items ih => simp [itemPieces, Piece.path?, ih, List.range'_succ]

theorem entryPieces_paths (key value keyWire valueWire name : String) (n : Nat)
    (entries : List (Scalar × Value)) :
    (entryPieces key value keyWire valueWire name n entries).filterMap Piece.path? =
      (List.range' n entries.length).flatMap fun i =>
        [joinPath (joinPath name (indexText i)) keyWire,
          joinPath (joinPath name (indexText i)) valueWire] := by
  induction entries generalizing n with
  | nil => rfl
  | cons e entries ih => simp [entryPieces, Piece.path?, ih, List.range'_succ]

theorem mem_itemPieces {element name : String} {n : Nat} {items : List Value} {p : Piece}
    (mem : p ∈ itemPieces element name n items) :
    ∃ i, ∃ v ∈ items, p = .below element (joinPath name (indexText i)) v := by
  induction items generalizing n with
  | nil => cases mem
  | cons v items ih =>
    rcases List.mem_cons.mp mem with rfl | mem
    · exact ⟨n, v, List.mem_cons_self, rfl⟩
    · obtain ⟨i, v, here, same⟩ := ih mem
      exact ⟨i, v, List.mem_cons_of_mem _ here, same⟩

theorem mem_entryPieces {key value keyWire valueWire name : String} {n : Nat}
    {entries : List (Scalar × Value)} {p : Piece}
    (mem : p ∈ entryPieces key value keyWire valueWire name n entries) :
    ∃ i, ∃ e ∈ entries,
      p = .below key (joinPath (joinPath name (indexText i)) keyWire) (.scalar e.1) ∨
      p = .below value (joinPath (joinPath name (indexText i)) valueWire) e.2 := by
  induction entries generalizing n with
  | nil => cases mem
  | cons e entries ih =>
    rcases List.mem_cons.mp mem with rfl | mem
    · exact ⟨n, e, List.mem_cons_self, .inl rfl⟩
    · rcases List.mem_cons.mp mem with rfl | mem
      · exact ⟨n, e, List.mem_cons_self, .inr rfl⟩
      · obtain ⟨i, e, here, same⟩ := ih mem
        exact ⟨i, e, List.mem_cons_of_mem _ here, same⟩

theorem exists_memberPieces {name : String} {plan : List FieldWrite}
    {fields : List (String × Option Value)}
    (each : List.Forall₂ (fun f entry => f.field = entry.1 ∧
      ∃ own, memberPiece name f entry.2 = some own) plan fields) :
    ∃ pieces, memberPieces name plan fields = some pieces := by
  induction each with
  | nil => exact ⟨[], rfl⟩
  | cons first _ ih =>
    obtain ⟨named, own, made⟩ := first
    obtain ⟨rest, others⟩ := ih
    exact ⟨own ++ rest, by simp [memberPieces, named, made, others]⟩

theorem memberPieces_cons_eq_some {name : String} {f : FieldWrite} {plan : List FieldWrite}
    {entry : String × Option Value} {fields : List (String × Option Value)} {pieces : List Piece} :
    memberPieces name (f :: plan) (entry :: fields) = some pieces ↔ f.field = entry.1 ∧
      ∃ first rest, memberPiece name f entry.2 = some first ∧
        memberPieces name plan fields = some rest ∧ first ++ rest = pieces := by
  obtain ⟨field, value⟩ := entry
  by_cases named : f.field = field <;> simp [memberPieces, named, Option.bind_eq_some_iff]

theorem exists_member_of_piece {name : String} {plan : List FieldWrite}
    {fields : List (String × Option Value)} {pieces : List Piece}
    (made : memberPieces name plan fields = some pieces) {p : Piece} (mem : p ∈ pieces) :
    ∃ pair ∈ plan.zip fields, ∃ own, memberPiece name pair.1 pair.2.2 = some own ∧ p ∈ own := by
  induction plan generalizing fields pieces with
  | nil =>
    cases fields with
    | nil =>
      cases made
      cases mem
    | cons entry fields => cases made
  | cons f plan ih =>
    cases fields with
    | nil => cases made
    | cons entry fields =>
      obtain ⟨-, first, rest, own, others, rfl⟩ := memberPieces_cons_eq_some.mp made
      rcases List.mem_append.mp mem with mem | mem
      · exact ⟨(f, entry), List.mem_cons_self, first, own, mem⟩
      · obtain ⟨pair, here, inside⟩ := ih others mem
        exact ⟨pair, List.mem_cons_of_mem _ here, inside⟩

theorem exists_pieces_of_member {name : String} {plan : List FieldWrite}
    {fields : List (String × Option Value)} {pieces : List Piece}
    (made : memberPieces name plan fields = some pieces)
    {pair : FieldWrite × String × Option Value} (mem : pair ∈ plan.zip fields) :
    ∃ own, memberPiece name pair.1 pair.2.2 = some own ∧ own ⊆ pieces := by
  induction plan generalizing fields pieces with
  | nil => cases mem
  | cons f plan ih =>
    cases fields with
    | nil => cases mem
    | cons entry fields =>
      obtain ⟨-, first, rest, own, others, rfl⟩ := memberPieces_cons_eq_some.mp made
      rcases List.mem_cons.mp mem with rfl | mem
      · exact ⟨first, own, List.subset_append_left ..⟩
      · obtain ⟨own, made, inside⟩ := ih others mem
        exact ⟨own, made, List.Subset.trans inside (List.subset_append_right ..)⟩

/-- The parameter of a member, when the value is called `name`. -/
def Target.path? (name : String) : Target → Option String
  | .queryParam wire => some wire
  | .nested _ wire => some (joinPath name wire)
  | _ => none

/-- The wire name of a member that goes to parameters. -/
def Target.paramWire? : Target → Option String
  | .queryParam wire | .nested _ wire => some wire
  | _ => none

theorem memberPiece_paths {name : String} {f : FieldWrite} {value : Option Value}
    {pieces : List Piece} (made : memberPiece name f value = some pieces) :
    (pieces.filterMap Piece.path?).Sublist (f.target.path? name).toList := by
  cases value with
  | none =>
    simp only [memberPiece] at made
    split at made
    · cases made
    · cases made
      exact List.nil_sublist _
  | some v =>
    cases target : f.target <;> cases v <;>
      simp only [memberPiece, target, Target.write?, Option.map_some, Option.some.injEq,
        reduceCtorEq] at made <;>
      simp [← made, Piece.path?, Target.path?]

theorem memberPieces_paths {name : String} {plan : List FieldWrite}
    {fields : List (String × Option Value)} {pieces : List Piece}
    (made : memberPieces name plan fields = some pieces) :
    (pieces.filterMap Piece.path?).Sublist (plan.filterMap (·.target.path? name)) := by
  induction plan generalizing fields pieces with
  | nil =>
    cases fields with
    | nil =>
      cases made
      exact List.nil_sublist _
    | cons entry fields => cases made
  | cons f plan ih =>
    cases fields with
    | nil => cases made
    | cons entry fields =>
      obtain ⟨-, first, rest, own, others, rfl⟩ := memberPieces_cons_eq_some.mp made
      have split : (f :: plan).filterMap (·.target.path? name) =
          (f.target.path? name).toList ++ plan.filterMap (·.target.path? name) := by
        cases path : f.target.path? name <;> simp [path]
      rw [List.filterMap_append, split]
      exact (memberPiece_paths own).append (ih others)

namespace EncoderBody

theorem partsApart_scalar : EncoderBody.scalar.PartsApart := by
  intro name v pieces _ made
  cases v <;> simp only [EncoderBody.pieces, Option.some.injEq, reduceCtorEq] at made
  simp [← made, Piece.path?]

theorem partsApart_list (element : String) : (EncoderBody.list element).PartsApart := by
  intro name v pieces _ made
  cases v <;> simp only [EncoderBody.pieces, Option.some.injEq, reduceCtorEq] at made
  rw [← made, itemPieces_paths]
  exact (List.nodup_range' ..).map fun i j same => indexText_inj (joinPath_inj same)

/-- Entries are told apart by their numbers, a key and its value by their wire names alone. -/
theorem partsApart_map (key value keyWire valueWire : String) :
    (EncoderBody.map key value keyWire valueWire).PartsApart ↔ keyWire ≠ valueWire := by
  constructor
  · rintro apart rfl
    have one := apart "" (.map [(.text "", .text "")]) _ (.inl rfl) rfl
    rw [entryPieces_paths] at one
    simp at one
  · intro different name v pieces _ made
    cases v <;> simp only [EncoderBody.pieces, Option.some.injEq, reduceCtorEq] at made
    rw [← made, entryPieces_paths, List.nodup_flatMap]
    constructor
    · intro i _
      have apart : joinPath (joinPath name (indexText i)) keyWire ≠
          joinPath (joinPath name (indexText i)) valueWire :=
        fun same => different (joinPath_inj same)
      simp [apart]
    · refine (List.nodup_range' ..).imp fun other path first second => ?_
      simp only [List.mem_cons, List.not_mem_nil, or_false] at first second
      rcases first with rfl | rfl <;> rcases second with same | same <;>
        exact other (joinPath_entry_inj same).1

theorem partsApart_struct {plan : List FieldWrite}
    (distinct : (plan.filterMap (·.target.paramWire?)).Nodup) :
    (EncoderBody.struct plan).PartsApart := by
  intro name v pieces place made
  cases v <;> simp only [EncoderBody.pieces, reduceCtorEq] at made
  refine (memberPieces_paths made).nodup ?_
  have paths : plan.filterMap (·.target.path? name) =
      (plan.filterMap (·.target.paramWire?)).map (joinPath name) := by
    rw [List.map_filterMap]
    refine List.filterMap_congr fun f mem => ?_
    rcases place with rfl | plain
    · cases f.target <;> simp [Target.path?, Target.paramWire?, joinPath_empty]
    · have other := List.any_eq_false.mp plain f mem
      cases target : f.target <;>
        simp_all [Target.path?, Target.paramWire?, Target.isQuery]
  rw [paths]
  exact distinct.map fun _ _ => joinPath_inj

end EncoderBody
end ServiceClient.Codec
