import ServiceClient.Proofs.Codec.Flattening

/-! Encoding below a name. Types whose values are written to parameters alone, each below its own
name, are written alike wherever they stand: another name in front changes the names of the
parameters and nothing else of what is written. -/

namespace ServiceClient.Codec
open ServiceClient.Wire

/-- The piece with the names of its parameters below `p`. -/
def Piece.within (p : String) : Piece → Piece
  | .own write => .own write
  | .below type path v => .below type (joinPath p path) v

/-- Written by an encoder of `types`, below the name of the parent. -/
def Target.isNestedIn (types : List String) : Target → Bool
  | .nested type wire => types.contains type && wire != ""
  | _ => false

/-- All that is written goes to parameters, the parts by encoders of `types`. -/
def EncoderBody.isNestedIn (types : List String) : EncoderBody → Bool
  | .scalar => true
  | .list element => types.contains element
  | .map key value _ _ => types.contains key && types.contains value
  | .struct plan => plan.all (·.target.isNestedIn types)

/-- Parts are named below `moved` as they are below `name`, with `p` in front. -/
def Shifts (p name moved : String) : Prop :=
  ∀ segment, segment ≠ "" → joinPath moved segment = joinPath p (joinPath name segment)

section Names
variable {p name moved : String}

theorem shifts_empty (p : String) : Shifts p "" p :=
  fun _ _ => rfl

theorem shifts_joinPath (filled : name ≠ "") (p : String) : Shifts p name (joinPath p name) :=
  fun segment _ => joinPath_joinPath filled p segment

theorem itemPieces_within (shifts : Shifts p name moved) (element : String) (n : Nat)
    (items : List Value) :
    itemPieces element moved n items = (itemPieces element name n items).map (Piece.within p) := by
  induction items generalizing n with
  | nil => rfl
  | cons v items ih =>
    rw [itemPieces, itemPieces, List.map_cons, ih, Piece.within,
      shifts _ (indexText_ne_empty n)]

theorem entryPieces_within (shifts : Shifts p name moved) (key value keyWire valueWire : String)
    (n : Nat) (entries : List (Scalar × Value)) :
    entryPieces key value keyWire valueWire moved n entries =
      (entryPieces key value keyWire valueWire name n entries).map (Piece.within p) := by
  induction entries generalizing n with
  | nil => rfl
  | cons e entries ih =>
    have entry : ∀ part, joinPath (joinPath moved (indexText n)) part =
        joinPath p (joinPath (joinPath name (indexText n)) part) := by
      intro part
      have filled : joinPath name (indexText n) ≠ "" :=
        joinPath_ne_empty_of_segment (indexText_ne_empty n)
      rw [shifts _ (indexText_ne_empty n), joinPath_joinPath filled]
    rw [entryPieces, entryPieces, List.map_cons, List.map_cons, ih, Piece.within, Piece.within,
      entry, entry]

theorem memberPiece_within (shifts : Shifts p name moved) {types : List String} {f : FieldWrite}
    (nested : f.target.isNestedIn types) (value : Option Value) :
    memberPiece moved f value = (memberPiece name f value).map (·.map (Piece.within p)) := by
  cases value with
  | none => cases required : f.required <;> simp [memberPiece, required]
  | some v =>
    cases target : f.target with
    | nested type wire =>
      have filled : wire ≠ "" := by simp_all [Target.isNestedIn]
      simp [memberPiece, target, Piece.within, shifts wire filled]
    | _ => simp [target, Target.isNestedIn] at nested

theorem memberPieces_within (shifts : Shifts p name moved) {types : List String}
    {plan : List FieldWrite} (nested : ∀ f ∈ plan, f.target.isNestedIn types)
    (fields : List (String × Option Value)) :
    memberPieces moved plan fields =
      (memberPieces name plan fields).map (·.map (Piece.within p)) := by
  induction plan generalizing fields with
  | nil => cases fields <;> rfl
  | cons f plan ih =>
    obtain ⟨own, rest⟩ := List.forall_mem_cons.mp nested
    cases fields with
    | nil => rfl
    | cons entry fields =>
      obtain ⟨field, value⟩ := entry
      simp only [memberPieces, memberPiece_within shifts own, ih rest]
      split
      · rfl
      · cases memberPiece name f value <;> cases memberPieces name plan fields <;> simp

end Names

/-- What holds of the parts of a value. -/
def Value.EachPart (P : Value → Prop) : Value → Prop
  | .scalar _ => True
  | .list items => ∀ v ∈ items, P v
  | .map entries => ∀ e ∈ entries, P e.2
  | .struct fields => ∀ field ∈ fields, ∀ v ∈ field.2, P v

section Pieces
variable {p name moved : String} {types : List String} {body : EncoderBody} {v : Value}

theorem pieces_within (shifts : Shifts p name moved) (nested : body.isNestedIn types)
    (compound : ∀ s, v ≠ .scalar s) :
    body.pieces moved v = (body.pieces name v).map (·.map (Piece.within p)) := by
  cases body <;> cases v <;> try rfl
  case scalar.scalar s => exact absurd rfl (compound s)
  case list.list element items => exact congrArg some (itemPieces_within shifts element 1 items)
  case map.map key value keyWire valueWire entries =>
    exact congrArg some (entryPieces_within shifts key value keyWire valueWire 1 entries)
  case struct.struct plan fields =>
    exact memberPieces_within shifts (List.all_eq_true.mp nested) fields

theorem exists_part_of_member {f : FieldWrite} (nested : f.target.isNestedIn types)
    {value : Option Value} {own : List Piece} (made : memberPiece name f value = some own)
    {piece : Piece} (mem : piece ∈ own) :
    ∃ type ∈ types, ∃ path, path ≠ "" ∧ ∃ v ∈ value, piece = .below type path v := by
  cases value with
  | none =>
    simp only [memberPiece] at made
    split at made
    · cases made
    · cases made
      cases mem
  | some v =>
    cases target : f.target with
    | nested type wire =>
      simp only [target, Target.isNestedIn, Bool.and_eq_true, List.contains_iff_mem,
        bne_iff_ne] at nested
      simp only [memberPiece, target, Option.some.injEq] at made
      subst made
      obtain rfl := List.mem_singleton.mp mem
      exact ⟨type, nested.1, _, joinPath_ne_empty_of_segment nested.2, v, rfl, rfl⟩
    | _ => simp [target, Target.isNestedIn] at nested

/-- The parts of a value are handed to encoders of `types`, under names of their own. -/
theorem exists_part_of_piece (nested : body.isNestedIn types) (compound : ∀ s, v ≠ .scalar s)
    {P : Value → Prop} (scalars : ∀ s, P (.scalar s)) (parts : v.EachPart P) {pieces : List Piece}
    (made : body.pieces name v = some pieces) {piece : Piece} (mem : piece ∈ pieces) :
    ∃ type ∈ types, ∃ path, path ≠ "" ∧ ∃ part, P part ∧ piece = .below type path part := by
  cases v with
  | scalar s => exact absurd rfl (compound s)
  | list items =>
    cases body <;> cases made
    rename_i element
    obtain ⟨i, v, here, rfl⟩ := mem_itemPieces mem
    exact ⟨element, by simpa [EncoderBody.isNestedIn] using nested, _,
      joinPath_ne_empty_of_segment (indexText_ne_empty i), v, parts v here, rfl⟩
  | map entries =>
    cases body <;> cases made
    rename_i key value keyWire valueWire
    simp only [EncoderBody.isNestedIn, Bool.and_eq_true, List.contains_iff_mem] at nested
    have filled : ∀ (i : Nat) (part : String),
        joinPath (joinPath name (indexText i)) part ≠ "" := fun i part =>
      joinPath_ne_empty_of_name (joinPath_ne_empty_of_segment (indexText_ne_empty i)) part
    obtain ⟨i, e, here, rfl | rfl⟩ := mem_entryPieces mem
    · exact ⟨key, nested.1, _, filled i keyWire, _, scalars e.1, rfl⟩
    · exact ⟨value, nested.2, _, filled i valueWire, _, parts e here, rfl⟩
  | struct fields =>
    cases body with
    | struct plan =>
      obtain ⟨pair, here, own, made', mem⟩ := exists_member_of_piece made mem
      obtain ⟨planned, given⟩ := List.of_mem_zip here
      obtain ⟨type, known, path, filled, v, met, same⟩ :=
        exists_part_of_member (List.all_eq_true.mp nested _ planned) made' mem
      exact ⟨type, known, path, filled, v, parts _ given v met, same⟩
    | _ => cases made

end Pieces

/-- Nothing but parameters is written, and in the second place the same with `p` in front of the
names. -/
def SameBelow (p : String) (ws moved : Option (List Write)) : Prop :=
  ∃ t : Option Table, ws = t.map puts ∧ moved = t.map fun t => puts (t.rename (joinPath p))

theorem SameBelow.append {p : String} {first first' rest rest' : Option (List Write)}
    (front : SameBelow p first first') (back : SameBelow p rest rest') :
    SameBelow p (first.bind fun ws => rest.bind fun ws' => some (ws ++ ws'))
      (first'.bind fun ws => rest'.bind fun ws' => some (ws ++ ws')) := by
  obtain ⟨t, rfl, rfl⟩ := front
  obtain ⟨u, rfl, rfl⟩ := back
  refine ⟨t.bind fun t => u.map (t ++ ·), ?_, ?_⟩ <;>
    cases t <;> cases u <;> simp [puts, Table.rename]

namespace Module
variable {m : Module} {types : List String} {p : String}

/-- The encoders of `types` write to parameters alone, the parts of a value by encoders of `types`
as well. -/
def KeepsToParams (m : Module) (types : List String) : Prop :=
  ∀ type ∈ types, (m.encoderBody? type).all (·.isNestedIn types)

instance : Decidable (m.KeepsToParams types) :=
  inferInstanceAs (Decidable (∀ type ∈ types, (m.encoderBody? type).all (·.isNestedIn types)))

/-- The value is written alike under any name, with `p` in front. -/
def Movable (m : Module) (types : List String) (p : String) (v : Value) : Prop :=
  ∀ type ∈ types, ∀ path, path ≠ "" →
    SameBelow p (m.writes type path v) (m.writes type (joinPath p path) v)

theorem movable_scalar (v : Scalar) : m.Movable types p (.scalar v) := by
  intro type _ path _
  rw [writes, writes]
  split
  · exact ⟨some [(path, v.toText)], rfl, rfl⟩
  · exact ⟨none, rfl, rfl⟩

theorem piecesWrites_within {pieces : List Piece}
    (each : ∀ piece ∈ pieces,
      SameBelow p (m.pieceWrites piece) (m.pieceWrites (piece.within p))) :
    SameBelow p (m.piecesWrites pieces) (m.piecesWrites (pieces.map (Piece.within p))) := by
  induction pieces with
  | nil => exact ⟨some [], rfl, rfl⟩
  | cons piece pieces ih =>
    obtain ⟨own, rest⟩ := List.forall_mem_cons.mp each
    exact own.append (ih rest)

namespace KeepsToParams

/-- A compound value is written alike where its parts are named alike. -/
theorem writes_within (keeps : m.KeepsToParams types) {type : String} (known : type ∈ types)
    {name moved : String} (shifts : Shifts p name moved) {v : Value}
    (compound : ∀ s, v ≠ .scalar s) (parts : v.EachPart (m.Movable types p)) :
    SameBelow p (m.writes type name v) (m.writes type moved v) := by
  rw [writes_eq, writes_eq]
  cases found : m.encoderBody? type with
  | none => exact ⟨none, rfl, rfl⟩
  | some body =>
    have nested : body.isNestedIn types := by simpa [found] using keeps type known
    rw [Option.bind_some, Option.bind_some, pieces_within shifts nested compound]
    cases made : body.pieces name v with
    | none => exact ⟨none, rfl, rfl⟩
    | some pieces =>
      refine piecesWrites_within fun piece mem => ?_
      obtain ⟨type, known, path, filled, part, movable, rfl⟩ :=
        exists_part_of_piece nested compound movable_scalar parts made mem
      exact movable type known path filled

theorem movable (keeps : m.KeepsToParams types) (v : Value) : m.Movable types p v := by
  induction v using Value.induction with
  | scalar v => exact movable_scalar v
  | list items parts =>
    exact fun type known path filled =>
      keeps.writes_within known (shifts_joinPath filled p) nofun parts
  | map entries parts =>
    exact fun type known path filled =>
      keeps.writes_within known (shifts_joinPath filled p) nofun parts
  | struct fields parts =>
    exact fun type known path filled =>
      keeps.writes_within known (shifts_joinPath filled p) nofun parts

end KeepsToParams

/-- Encoding the value under the name `p` into `r` puts parameters below `p` and changes nothing
else; into a request without parameters it puts those of the empty name, with `p` in front. -/
def EncodesBelow (m : Module) (type : String) (v : Value) (p : String) (r : Request) : Prop :=
  ∃ sent, m.encode type p v r = some sent ∧ sent = { r with params := sent.params } ∧
    (∀ (i : Nat) (e : String × String), r.params[i]? = some e →
      ¬(p ++ ".").toList <+: e.1.toList → sent.params[i]? = some e) ∧
    (r.params = [] → ∃ bare, m.encode type "" v r = some bare ∧
      sent.params = bare.params.map fun e => (p ++ "." ++ e.1, e.2))

theorem KeepsToParams.encodesBelow (keeps : m.KeepsToParams types) {type : String}
    (known : type ∈ types) (named : p ≠ "") {fields : List (String × Option Value)}
    (encodes : ∃ ws, m.writes type "" (.struct fields) = some ws) (r : Request) :
    m.EncodesBelow type (.struct fields) p r := by
  have parts : (Value.struct fields).EachPart (m.Movable types p) :=
    fun _ _ v _ => keeps.movable v
  have compound : ∀ s, Value.struct fields ≠ .scalar s := nofun
  obtain ⟨t, bare, moved⟩ := keeps.writes_within known (shifts_empty p) compound parts
  obtain ⟨ws, written⟩ := encodes
  obtain ⟨t, rfl, rfl⟩ := Option.map_eq_some_iff.mp (bare.symm.trans written)
  have path : ∀ name, joinPath p name = p ++ "." ++ name := by
    intro name
    rw [joinPath, if_neg (by simpa using named)]
  refine ⟨r.writeAll (puts (t.rename (joinPath p))), by rw [encode, moved]; rfl, ?_, ?_, ?_⟩
  · rw [puts, Request.writeAll_params]
  · intro i e here outside
    rw [puts, Request.writeAll_params]
    refine Table.getElem?_putAll here ?_
    intro e' mem same
    obtain ⟨e'', -, rfl⟩ := List.mem_map.mp mem
    refine outside ?_
    have spelt : e.1.toList = (p ++ ".").toList ++ e''.1.toList := by
      rw [← same, path]
      exact String.toList_append
    rw [spelt]
    exact List.prefix_append _ _
  · intro fresh
    refine ⟨r.writeAll (puts t), by rw [encode, bare]; rfl, ?_⟩
    have injective : Function.Injective (joinPath p) := fun _ _ => joinPath_inj
    rw [puts, puts, Request.writeAll_params, Request.writeAll_params, fresh]
    refine (Table.rename_putAll injective [] t).symm.trans (List.map_congr_left fun e _ => ?_)
    rw [path]

end Module
end ServiceClient.Codec
