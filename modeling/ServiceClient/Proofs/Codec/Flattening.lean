import ServiceClient.Proofs.Codec.Pieces
import ServiceClient.Proofs.Wire.Request

/-! Tables of parameters with dotted names. Where the wire names of members have no dots and differ
from each other, every part of a value has the names below its own to itself, so that no parameter
is written twice and the table tells what each part wrote. -/

namespace ServiceClient.Codec
open ServiceClient.Wire
open ServiceClient.Markup (toList_joinPath dot_not_mem_index)

/-- A name that stays in one piece between dots. -/
def isSegment (s : String) : Bool :=
  s != "" && !s.toList.contains '.'

/-- Whether a parameter belongs to the value called `path`, which has a name. -/
def isUnder (path param : String) : Bool :=
  param == path || (path.toList ++ ['.']).isPrefixOf param.toList

section Names
variable {name path param a b : String}

theorem isSegment_iff : isSegment a ↔ a ≠ "" ∧ '.' ∉ a.toList := by
  simp [isSegment]

theorem isSegment_indexText (n : Nat) : isSegment (indexText n) :=
  isSegment_iff.mpr ⟨indexText_ne_empty n, dot_not_mem_index n⟩

theorem isUnder_iff : isUnder path param ↔
    ∃ rest, param.toList = path.toList ++ rest ∧ ∀ c ∈ rest.head?, c = '.' := by
  rw [isUnder, Bool.or_eq_true, beq_iff_eq, List.isPrefixOf_iff_prefix]
  constructor
  · rintro (rfl | ⟨rest, same⟩)
    · exact ⟨[], by simp, nofun⟩
    · exact ⟨'.' :: rest, by simp [← same], by simp⟩
  · rintro ⟨rest, same, dotted⟩
    cases rest with
    | nil => exact .inl (String.toList_injective (by simpa using same))
    | cons c rest =>
      obtain rfl := dotted c rfl
      exact .inr ⟨rest, by simp [same]⟩

theorem isUnder_self (path : String) : isUnder path path := by
  simp [isUnder]

theorem isUnder_joinPath (top : path ≠ "") (a : String) : isUnder path (joinPath path a) :=
  isUnder_iff.mpr ⟨'.' :: a.toList, toList_joinPath top a, by simp⟩

theorem isUnder_trans (outer : isUnder name path) (inner : isUnder path param) :
    isUnder name param := by
  obtain ⟨rest, same, dotted⟩ := isUnder_iff.mp outer
  obtain ⟨rest', same', dotted'⟩ := isUnder_iff.mp inner
  refine isUnder_iff.mpr ⟨rest ++ rest', by rw [same', same, List.append_assoc], ?_⟩
  cases rest with
  | nil => exact dotted'
  | cons c rest => exact dotted

/-- What stands in front of the first dot of a joined name. -/
theorem takeWhile_segment (segment : isSegment a) {rest : List Char}
    (dotted : ∀ c ∈ rest.head?, c = '.') :
    (a.toList ++ rest).takeWhile (· ≠ '.') = a.toList := by
  have plain : ∀ c ∈ a.toList, decide (c ≠ '.') = true := fun c mem =>
    decide_eq_true fun dot => (isSegment_iff.mp segment).2 (dot ▸ mem)
  rw [List.takeWhile_append_of_pos plain]
  cases rest with
  | nil => simp
  | cons c rest =>
    obtain rfl := dotted c rfl
    simp

/-- A parameter belongs to one part of a value at most. -/
theorem eq_of_isUnder (segment : isSegment a) (segment' : isSegment b)
    (here : isUnder (joinPath name a) param) (there : isUnder (joinPath name b) param) : a = b := by
  obtain ⟨rest, same, dotted⟩ := isUnder_iff.mp here
  obtain ⟨rest', same', dotted'⟩ := isUnder_iff.mp there
  rw [same] at same'
  have tails : a.toList ++ rest = b.toList ++ rest' := by
    by_cases top : name = ""
    · simpa [top, joinPath_empty] using same'
    · simpa [toList_joinPath top] using same'
  apply String.toList_injective
  rw [← takeWhile_segment segment dotted, tails, takeWhile_segment segment' dotted']

end Names

/-- What is written for a value called `path`: parameters of that name or below it, each once. -/
structure Fills (path : String) (t : Table) : Prop where
  under : path ≠ "" → ∀ e ∈ t, isUnder path e.1
  distinct : (t.map (·.1)).Nodup

/-- Tables for the parts of a value called `name`, which have names of their own. -/
structure Parted (name : String) (parts : List (String × Table)) : Prop where
  segments : ∀ p ∈ parts, isSegment p.1
  distinct : (parts.map (·.1)).Nodup
  fills : ∀ p ∈ parts, Fills (joinPath name p.1) p.2

namespace Parted
variable {name : String} {parts parts' : List (String × Table)}

theorem nil (name : String) : Parted name [] := by
  constructor <;> simp

theorem cons {a : String} {t : Table} (segment : isSegment a) (fresh : a ∉ parts.map (·.1))
    (own : Fills (joinPath name a) t) (rest : Parted name parts) :
    Parted name ((a, t) :: parts) where
  segments := List.forall_mem_cons.mpr ⟨segment, rest.segments⟩
  distinct := List.nodup_cons.mpr ⟨fresh, rest.distinct⟩
  fills := List.forall_mem_cons.mpr ⟨own, rest.fills⟩

theorem under (parted : Parted name parts) {p : String × Table} (mem : p ∈ parts) :
    ∀ e ∈ p.2, isUnder (joinPath name p.1) e.1 := by
  have filled : p.1 ≠ "" := (isSegment_iff.mp (parted.segments p mem)).1
  exact (parted.fills p mem).under (joinPath_ne_empty_of_segment filled)

/-- The table of the whole value. -/
def whole (parts : List (String × Table)) : Table :=
  parts.flatMap (·.2)

theorem fills_whole (parted : Parted name parts) : Fills name (whole parts) where
  under top e mem := by
    obtain ⟨p, here, inside⟩ := List.mem_flatMap.mp mem
    exact isUnder_trans (isUnder_joinPath top p.1) (parted.under here e inside)
  distinct := by
    rw [whole, List.map_flatMap, List.nodup_flatMap]
    refine ⟨fun p mem => (parted.fills p mem).distinct,
      (List.pairwise_map.mp parted.distinct).imp_of_mem ?_⟩
    intro p q here there other param left right
    obtain ⟨e, mem, rfl⟩ := List.mem_map.mp left
    obtain ⟨e', mem', same⟩ := List.mem_map.mp right
    exact other (eq_of_isUnder (parted.segments p here) (parted.segments q there)
      (parted.under here e mem) (same ▸ parted.under there e' mem'))

/-- The table of a part is what the whole table has below its name. -/
theorem filter_whole (parted : Parted name parts) {p : String × Table} (mem : p ∈ parts) :
    (whole parts).filter (fun e => isUnder (joinPath name p.1) e.1) = p.2 := by
  have own : p.2.filter (fun e => isUnder (joinPath name p.1) e.1) = p.2 :=
    List.filter_eq_self.mpr (parted.under mem)
  have others : ∀ q ∈ parts, q.1 ≠ p.1 →
      q.2.filter (fun e => isUnder (joinPath name p.1) e.1) = [] := by
    intro q here other
    refine List.filter_eq_nil_iff.mpr fun e inside under => other ?_
    exact eq_of_isUnder (parted.segments q here) (parted.segments p mem)
      (parted.under here e inside) under
  have distinct := parted.distinct
  obtain ⟨before, after, rfl⟩ := List.append_of_mem mem
  rw [List.map_append, List.map_cons, List.nodup_append, List.nodup_cons] at distinct
  obtain ⟨-, ⟨later, -⟩, earlier⟩ := distinct
  have first : before.flatMap (fun q =>
      q.2.filter fun e => isUnder (joinPath name p.1) e.1) = [] :=
    List.flatMap_eq_nil_iff.mpr fun q here => others q (by simp [here])
      (earlier _ (List.mem_map_of_mem here) _ List.mem_cons_self)
  have last : after.flatMap (fun q =>
      q.2.filter fun e => isUnder (joinPath name p.1) e.1) = [] :=
    List.flatMap_eq_nil_iff.mpr fun q here => others q (by simp [here])
      fun same => later (same ▸ List.mem_map_of_mem here)
  rw [whole, List.filter_flatMap, List.flatMap_append, List.flatMap_cons, first, last, own,
    List.append_nil, List.nil_append]

/-- A table tells its parts. -/
theorem eq_of_whole_eq (parted : Parted name parts) (parted' : Parted name parts')
    (names : parts.map (·.1) = parts'.map (·.1)) (same : whole parts = whole parts') :
    parts = parts' := by
  have split : ∀ {parts : List (String × Table)}, Parted name parts →
      parts = (parts.map (·.1)).map fun a =>
        (a, (whole parts).filter fun e => isUnder (joinPath name a) e.1) := by
    intro parts parted
    rw [List.map_map]
    refine (List.map_congr_left (g := id) fun p mem => ?_).trans (List.map_id parts) |>.symm
    exact Prod.ext rfl (parted.filter_whole mem)
  rw [split parted, split parted', names, same]

end Parted

/-- The writes of a table. -/
def puts (t : Table) : List Write :=
  t.map fun e => .param e.1 e.2

theorem puts_append (t t' : Table) : puts (t ++ t') = puts t ++ puts t' :=
  List.map_append

theorem puts_inj {t t' : Table} (same : puts t = puts t') : t = t' :=
  List.map_injective_iff.mpr (fun e e' same => by simpa [Prod.ext_iff] using same) same

/-- A part of every value is written below the parameters of the value. -/
def Target.isFlat : Target → Bool
  | .nested _ wire => isSegment wire
  | _ => false

def EncoderBody.isFlat : EncoderBody → Bool
  | .scalar | .list _ => true
  | .map _ _ keyWire valueWire =>
    isSegment keyWire && isSegment valueWire && keyWire != valueWire
  | .struct plan =>
    plan.all (·.target.isFlat) && decide (plan.filterMap (·.target.paramWire?)).Nodup

theorem Value.induction {P : Value → Prop} (scalar : ∀ v, P (.scalar v))
    (list : ∀ items, (∀ v ∈ items, P v) → P (.list items))
    (map : ∀ entries : List (Scalar × Value), (∀ e ∈ entries, P e.2) → P (.map entries))
    (struct : ∀ fields : List (String × Option Value),
      (∀ field ∈ fields, ∀ v ∈ field.2, P v) → P (.struct fields)) :
    ∀ v, P v
  | .scalar v => scalar v
  | .list items => list items fun v _ => induction scalar list map struct v
  | .map entries => map entries fun e _ => induction scalar list map struct e.2
  | .struct fields => struct fields fun field _ v _ => induction scalar list map struct v
termination_by v => sizeOf v
decreasing_by
  · rename_i mem
    have smaller := List.sizeOf_lt_of_mem mem
    simp only [Value.list.sizeOf_spec]
    omega
  · rename_i mem
    have smaller := List.sizeOf_lt_of_mem mem
    obtain ⟨k, v⟩ := e
    simp only [Value.map.sizeOf_spec, Prod.mk.sizeOf_spec] at smaller ⊢
    omega
  · rename_i mem here
    have smaller := List.sizeOf_lt_of_mem mem
    obtain ⟨name, slot⟩ := field
    obtain rfl : slot = some v := here
    simp only [Value.struct.sizeOf_spec, Prod.mk.sizeOf_spec, Option.some.sizeOf_spec]
      at smaller ⊢
    omega

namespace Module
variable {m : Module}

/-- All encoders write flat names. -/
def IsFlat (m : Module) : Prop :=
  ∀ type body, m.encoderBody? type = some body → body.isFlat

theorem isFlat_of_all (checked : m.shapes.all fun s => s.encoder.all (·.body.isFlat)) :
    m.IsFlat := by
  intro type body found
  obtain ⟨encoder, looked, rfl⟩ := Option.map_eq_some_iff.mp found
  obtain ⟨s, mem, own⟩ := List.exists_of_findSome?_eq_some looked
  obtain ⟨own, -⟩ := Option.filter_eq_some_iff.mp own
  have flat := List.all_eq_true.mp checked s mem
  rwa [own, Option.all_some] at flat

/-- Whatever the value is written as fills a table, under any name. -/
def Settled (m : Module) (v : Value) : Prop :=
  ∀ type path ws, m.writes type path v = some ws → ∃ t, ws = puts t ∧ Codec.Fills path t

theorem fills_single (path text : String) : Codec.Fills path [(path, text)] where
  under _ e mem := by
    obtain rfl := List.mem_singleton.mp mem
    exact isUnder_self path
  distinct := List.nodup_singleton _

theorem settled_scalar (v : Scalar) : m.Settled (.scalar v) := by
  intro type path ws written
  rw [writes] at written
  split at written
  · cases written
    exact ⟨_, rfl, fills_single path v.toText⟩
  · cases written

theorem piecesWrites_cons_eq_some {p : Piece} {pieces : List Piece} {ws : List Write} :
    m.piecesWrites (p :: pieces) = some ws ↔ ∃ first rest, m.pieceWrites p = some first ∧
      m.piecesWrites pieces = some rest ∧ first ++ rest = ws := by
  simp [piecesWrites, Option.bind_eq_some_iff]

theorem indexText_not_mem (n length : Nat) :
    indexText n ∉ (List.range' (n + 1) length).map indexText := by
  intro mem
  obtain ⟨i, later, same⟩ := List.mem_map.mp mem
  obtain rfl := indexText_inj same
  have bounds := List.mem_range'_1.mp later
  omega

theorem itemPieces_parted {element name : String} {n : Nat} {items : List Value} {ws : List Write}
    (each : ∀ v ∈ items, m.Settled v)
    (written : m.piecesWrites (itemPieces element name n items) = some ws) :
    ∃ parts, ws = puts (Parted.whole parts) ∧ Parted name parts ∧
      parts.map (·.1) = (List.range' n items.length).map indexText := by
  induction items generalizing n ws with
  | nil => exact ⟨[], (Option.some.inj written).symm, .nil name, rfl⟩
  | cons v items ih =>
    obtain ⟨settled, each⟩ := List.forall_mem_cons.mp each
    obtain ⟨first, rest, own, others, rfl⟩ := piecesWrites_cons_eq_some.mp written
    obtain ⟨t, rfl, fills⟩ := settled _ _ _ own
    obtain ⟨parts, rfl, parted, names⟩ := ih each others
    refine ⟨(indexText n, t) :: parts, (puts_append _ _).symm, ?_, ?_⟩
    · exact parted.cons (isSegment_indexText n) (names ▸ indexText_not_mem n _) fills
    · rw [List.map_cons, names, List.length_cons, List.range'_succ, List.map_cons]

theorem entryPieces_parted {key value keyWire valueWire name : String} {n : Nat}
    {entries : List (Scalar × Value)} {ws : List Write} (named : isSegment keyWire)
    (named' : isSegment valueWire) (different : keyWire ≠ valueWire)
    (each : ∀ e ∈ entries, m.Settled e.2)
    (written : m.piecesWrites (entryPieces key value keyWire valueWire name n entries) = some ws) :
    ∃ parts, ws = puts (Parted.whole parts) ∧ Parted name parts ∧
      parts.map (·.1) = (List.range' n entries.length).map indexText := by
  induction entries generalizing n ws with
  | nil => exact ⟨[], (Option.some.inj written).symm, .nil name, rfl⟩
  | cons e entries ih =>
    obtain ⟨settled, each⟩ := List.forall_mem_cons.mp each
    obtain ⟨first, _, own, rest, rfl⟩ := piecesWrites_cons_eq_some.mp written
    obtain ⟨second, _, own', others, rfl⟩ := piecesWrites_cons_eq_some.mp rest
    obtain ⟨t, rfl, fills⟩ := settled_scalar e.1 _ _ _ own
    obtain ⟨t', rfl, fills'⟩ := settled _ _ _ own'
    obtain ⟨parts, rfl, parted, names⟩ := ih each others
    have entry : Parted (joinPath name (indexText n)) [(keyWire, t), (valueWire, t')] :=
      .cons named (by simpa using different) fills (.cons named' List.not_mem_nil fills' (.nil _))
    refine ⟨(indexText n, Parted.whole [(keyWire, t), (valueWire, t')]) :: parts, ?_, ?_, ?_⟩
    · simp [Parted.whole, puts]
    · exact parted.cons (isSegment_indexText n) (names ▸ indexText_not_mem n _) entry.fills_whole
    · rw [List.map_cons, names, List.length_cons, List.range'_succ, List.map_cons]

theorem exists_fills_of_member {name type wire : String} {f : FieldWrite} {value : Option Value}
    (target : f.target = .nested type wire) (settled : ∀ v ∈ value, m.Settled v)
    {pieces : List Piece} (made : memberPiece name f value = some pieces) {ws : List Write}
    (written : m.piecesWrites pieces = some ws) :
    ∃ t, ws = puts t ∧ Codec.Fills (joinPath name wire) t := by
  cases value with
  | none =>
    simp only [memberPiece] at made
    split at made
    · cases made
    · cases made
      exact ⟨[], (Option.some.inj written).symm, by simp, List.nodup_nil⟩
  | some v =>
    simp only [memberPiece, target, Option.some.injEq] at made
    subst made
    obtain ⟨first, rest, own, others, rfl⟩ := piecesWrites_cons_eq_some.mp written
    obtain rfl : [] = rest := Option.some.inj others
    rw [List.append_nil]
    exact settled v rfl _ _ _ own

/-- The parts of a structure, by the wire names of the members. -/
theorem memberPieces_parted {name : String} {plan : List FieldWrite}
    {fields : List (String × Option Value)} {pieces : List Piece} {ws : List Write}
    (flat : ∀ f ∈ plan, f.target.isFlat) (distinct : (plan.filterMap (·.target.paramWire?)).Nodup)
    (each : ∀ field ∈ fields, ∀ v ∈ field.2, m.Settled v)
    (made : memberPieces name plan fields = some pieces)
    (written : m.piecesWrites pieces = some ws) :
    ∃ parts, ws = puts (Parted.whole parts) ∧ Parted name parts ∧
      parts.map (·.1) = plan.filterMap (·.target.paramWire?) ∧
      (plan.zip fields).map (fun member => m.memberWrites name member.1 member.2.2) =
        parts.map fun p => some (puts p.2) := by
  induction plan generalizing fields pieces ws with
  | nil =>
    cases fields with
    | nil =>
      cases made
      exact ⟨[], (Option.some.inj written).symm, .nil name, rfl, rfl⟩
    | cons => cases made
  | cons f plan ih =>
    cases fields with
    | nil => cases made
    | cons entry fields =>
      obtain ⟨flatOwn, flat⟩ := List.forall_mem_cons.mp flat
      obtain ⟨settled, each⟩ := List.forall_mem_cons.mp each
      obtain ⟨-, first, rest, own, others, rfl⟩ := memberPieces_cons_eq_some.mp made
      rw [piecesWrites_append] at written
      obtain ⟨ws, here, written⟩ := Option.bind_eq_some_iff.mp written
      obtain ⟨ws', there, ⟨⟩⟩ := Option.bind_eq_some_iff.mp written
      cases target : f.target with
      | nested type wire =>
        have wires : (f :: plan).filterMap (·.target.paramWire?) =
            wire :: plan.filterMap (·.target.paramWire?) := by
          simp [target, Target.paramWire?]
        rw [wires, List.nodup_cons] at distinct
        obtain ⟨parts, rfl, parted, names, members⟩ := ih flat distinct.2 each others there
        obtain ⟨t, rfl, fills⟩ := exists_fills_of_member target settled own here
        have segment : isSegment wire := by simpa [target, Target.isFlat] using flatOwn
        refine ⟨(wire, t) :: parts, (puts_append _ _).symm, ?_, ?_, ?_⟩
        · exact parted.cons segment (names ▸ distinct.1) fills
        · rw [wires, List.map_cons, names]
        · rw [List.zip_cons_cons, List.map_cons, members, memberWrites_eq, own, Option.bind_some,
            here, List.map_cons]
      | _ => simp [target, Target.isFlat] at flatOwn

theorem IsFlat.struct_parted (flat : m.IsFlat) {type name : String}
    {fields : List (String × Option Value)} (each : ∀ field ∈ fields, ∀ v ∈ field.2, m.Settled v)
    {ws : List Write} (written : m.writes type name (.struct fields) = some ws) :
    ∃ plan parts, m.encoderBody? type = some (.struct plan) ∧ ws = puts (Parted.whole parts) ∧
      Parted name parts ∧ parts.map (·.1) = plan.filterMap (·.target.paramWire?) ∧
      (plan.zip fields).map (fun member => m.memberWrites name member.1 member.2.2) =
        parts.map fun p => some (puts p.2) := by
  rw [writes_eq] at written
  obtain ⟨body, found, ran⟩ := Option.bind_eq_some_iff.mp written
  obtain ⟨pieces, made, inner⟩ := Option.bind_eq_some_iff.mp ran
  have own := flat type body found
  cases body with
  | struct plan =>
    simp only [EncoderBody.isFlat, Bool.and_eq_true, List.all_eq_true, decide_eq_true_eq] at own
    obtain ⟨parts, whole⟩ := memberPieces_parted own.1 own.2 each made inner
    exact ⟨plan, parts, found, whole⟩
  | _ => cases made

/-- The encoders of flat names never write a parameter twice. -/
theorem IsFlat.settled (flat : m.IsFlat) (v : Value) : m.Settled v := by
  induction v using Value.induction with
  | scalar v => exact settled_scalar v
  | list items ih =>
    intro type path ws written
    rw [writes_eq] at written
    obtain ⟨body, -, ran⟩ := Option.bind_eq_some_iff.mp written
    obtain ⟨pieces, made, inner⟩ := Option.bind_eq_some_iff.mp ran
    cases body <;> cases made
    obtain ⟨parts, rfl, parted, -⟩ := itemPieces_parted ih inner
    exact ⟨_, rfl, parted.fills_whole⟩
  | map entries ih =>
    intro type path ws written
    rw [writes_eq] at written
    obtain ⟨body, found, ran⟩ := Option.bind_eq_some_iff.mp written
    obtain ⟨pieces, made, inner⟩ := Option.bind_eq_some_iff.mp ran
    have own := flat type body found
    cases body <;> cases made
    simp only [EncoderBody.isFlat, Bool.and_eq_true, bne_iff_ne] at own
    obtain ⟨⟨key, value⟩, different⟩ := own
    obtain ⟨parts, rfl, parted, -⟩ := entryPieces_parted key value different ih inner
    exact ⟨_, rfl, parted.fills_whole⟩
  | struct fields ih =>
    intro type path ws written
    obtain ⟨-, parts, -, rfl, parted, -⟩ := flat.struct_parted ih written
    exact ⟨_, rfl, parted.fills_whole⟩

theorem fieldWrites_congr {name : String} {plan : List FieldWrite}
    {fields fields' : List (String × Option Value)} (names : fields.map (·.1) = fields'.map (·.1))
    (members : (plan.zip fields).map (fun member => m.memberWrites name member.1 member.2.2) =
      (plan.zip fields').map fun member => m.memberWrites name member.1 member.2.2) :
    m.fieldWrites name plan fields = m.fieldWrites name plan fields' := by
  induction plan generalizing fields fields' with
  | nil =>
    cases fields with
    | nil =>
      obtain rfl : fields' = [] := List.map_eq_nil_iff.mp names.symm
      rfl
    | cons entry fields =>
      cases fields' with
      | nil => cases names
      | cons entry' fields' => rfl
  | cons f plan ih =>
    cases fields with
    | nil =>
      obtain rfl : fields' = [] := List.map_eq_nil_iff.mp names.symm
      rfl
    | cons entry fields =>
      cases fields' with
      | nil => cases names
      | cons entry' fields' =>
        obtain ⟨field, value⟩ := entry
        obtain ⟨field', value'⟩ := entry'
        obtain ⟨same, rest⟩ := List.cons.inj names
        obtain ⟨own, others⟩ := List.cons.inj members
        obtain rfl : field = field' := same
        have own : m.memberWrites name f value = m.memberWrites name f value' := own
        rw [fieldWrites, fieldWrites, own, ih rest others]

/-- Structures are written alike exactly if each of their members is. -/
theorem IsFlat.writes_struct_inj (flat : m.IsFlat) {type name : String} {plan : List FieldWrite}
    (body : m.encoderBody? type = some (.struct plan))
    {fields fields' : List (String × Option Value)}
    (names : fields.map (·.1) = fields'.map (·.1))
    (encodes : ∃ ws, m.writes type name (.struct fields) = some ws) :
    m.writes type name (.struct fields) = m.writes type name (.struct fields') ↔
      (plan.zip fields).map (fun member => m.memberWrites name member.1 member.2.2) =
        (plan.zip fields').map fun member => m.memberWrites name member.1 member.2.2 := by
  constructor
  · intro alike
    obtain ⟨ws, written⟩ := encodes
    obtain ⟨_, parts, body', same, parted, wires, members⟩ :=
      flat.struct_parted (fun _ _ v _ => flat.settled v) written
    obtain ⟨_, parts', body'', same', parted', wires', members'⟩ :=
      flat.struct_parted (fun _ _ v _ => flat.settled v) (alike ▸ written)
    cases body.symm.trans body'
    cases body.symm.trans body''
    obtain rfl : parts = parts' :=
      parted.eq_of_whole_eq parted' (wires.trans wires'.symm) (puts_inj (same.symm.trans same'))
    rw [members, members']
  · intro members
    simp only [writes, body]
    exact fieldWrites_congr names members

theorem exists_fieldWrites {name : String} {plan : List FieldWrite}
    {fields : List (String × Option Value)}
    (each : List.Forall₂ (fun f entry => f.field = entry.1 ∧
      ∃ ws, m.memberWrites name f entry.2 = some ws) plan fields) :
    ∃ ws, m.fieldWrites name plan fields = some ws := by
  induction each with
  | nil => exact ⟨[], rfl⟩
  | @cons f entry plan fields first _ ih =>
    obtain ⟨field, value⟩ := entry
    obtain ⟨rfl, own, written⟩ := first
    obtain ⟨rest, others⟩ := ih
    exact ⟨own ++ rest, by simp [fieldWrites, written, others]⟩

section Scalars
variable {type name wire field : String}

/-- The parameters of a list of scalars from number `n` on. -/
def itemTable (name : String) (n : Nat) : List String → Table
  | [] => []
  | text :: texts => (joinPath name (indexText n), text) :: itemTable name (n + 1) texts

/-- The parameters of a map of scalars from number `n` on. -/
def entryTable (keyWire valueWire name : String) (n : Nat) : List (String × String) → Table
  | [] => []
  | (key, value) :: entries =>
    (joinPath (joinPath name (indexText n)) keyWire, key) ::
      (joinPath (joinPath name (indexText n)) valueWire, value) ::
        entryTable keyWire valueWire name (n + 1) entries

theorem itemTable_inj {n : Nat} {texts texts' : List String}
    (same : itemTable name n texts = itemTable name n texts') : texts = texts' := by
  induction texts generalizing n texts' with
  | nil =>
    cases texts' with
    | nil => rfl
    | cons => cases same
  | cons text texts ih =>
    cases texts' with
    | nil => cases same
    | cons text' texts' =>
      obtain ⟨own, rest⟩ := List.cons.inj same
      rw [(Prod.mk.inj own).2, ih rest]

theorem entryTable_inj {keyWire valueWire : String} {n : Nat}
    {entries entries' : List (String × String)}
    (same : entryTable keyWire valueWire name n entries =
      entryTable keyWire valueWire name n entries') : entries = entries' := by
  induction entries generalizing n entries' with
  | nil =>
    cases entries' with
    | nil => rfl
    | cons => cases same
  | cons entry entries ih =>
    cases entries' with
    | nil => cases same
    | cons entry' entries' =>
      obtain ⟨key, same⟩ := List.cons.inj same
      obtain ⟨value, rest⟩ := List.cons.inj same
      rw [ih rest, Prod.ext (Prod.mk.inj key).2 (Prod.mk.inj value).2]

theorem itemWrites_scalars {element : String} (scalar : m.encoderBody? element = some .scalar)
    (n : Nat) (items : List Scalar) :
    m.itemWrites element name n (items.map .scalar) =
      some (puts (itemTable name n (items.map Scalar.toText))) := by
  induction items generalizing n with
  | nil => rfl
  | cons v items ih => simp [itemWrites, writes, scalar, ih, itemTable, puts]

theorem entryWrites_scalars {key value keyWire valueWire : String}
    (scalar : m.encoderBody? key = some .scalar) (scalar' : m.encoderBody? value = some .scalar)
    (n : Nat) (entries : List (Scalar × Scalar)) :
    m.entryWrites key value keyWire valueWire name n (entries.map fun e => (e.1, .scalar e.2)) =
      some (puts (entryTable keyWire valueWire name n
        (entries.map fun e => (e.1.toText, e.2.toText)))) := by
  induction entries generalizing n with
  | nil => rfl
  | cons e entries ih => simp [entryWrites, writes, scalar, scalar', ih, entryTable, puts]

/-- An optional scalar. -/
theorem memberWrites_scalar (scalar : m.encoderBody? type = some .scalar) (v : Option Scalar) :
    m.memberWrites name ⟨field, false, .nested type wire⟩ (v.map .scalar) =
      some (puts (v.map fun s => (joinPath name wire, s.toText)).toList) := by
  cases v <;> simp [memberWrites, writes, scalar, puts]

theorem memberWrites_scalar_inj (scalar : m.encoderBody? type = some .scalar)
    {v v' : Option Scalar} :
    m.memberWrites name ⟨field, false, .nested type wire⟩ (v.map .scalar) =
        m.memberWrites name ⟨field, false, .nested type wire⟩ (v'.map .scalar) ↔
      v.map Scalar.toText = v'.map Scalar.toText := by
  rw [memberWrites_scalar scalar, memberWrites_scalar scalar]
  cases v <;> cases v' <;> simp [puts]

theorem memberWrites_list {element : String} (body : m.encoderBody? type = some (.list element))
    (scalar : m.encoderBody? element = some .scalar) (items : Option (List Scalar)) :
    m.memberWrites name ⟨field, false, .nested type wire⟩
        (items.map fun items => .list (items.map .scalar)) =
      some (puts (itemTable (joinPath name wire) 1 ((items.getD []).map Scalar.toText))) := by
  cases items with
  | none => rfl
  | some items => simp [memberWrites, writes, body, itemWrites_scalars scalar]

theorem memberWrites_list_inj {element : String} (body : m.encoderBody? type = some (.list element))
    (scalar : m.encoderBody? element = some .scalar) {items items' : Option (List Scalar)} :
    m.memberWrites name ⟨field, false, .nested type wire⟩
          (items.map fun items => .list (items.map .scalar)) =
        m.memberWrites name ⟨field, false, .nested type wire⟩
          (items'.map fun items => .list (items.map .scalar)) ↔
      (items.getD []).map Scalar.toText = (items'.getD []).map Scalar.toText := by
  rw [memberWrites_list body scalar, memberWrites_list body scalar, Option.some_inj]
  exact ⟨fun same => itemTable_inj (puts_inj same), fun same => by rw [same]⟩

theorem memberWrites_map {key value keyWire valueWire : String}
    (body : m.encoderBody? type = some (.map key value keyWire valueWire))
    (scalar : m.encoderBody? key = some .scalar) (scalar' : m.encoderBody? value = some .scalar)
    (entries : Option (List (Scalar × Scalar))) :
    m.memberWrites name ⟨field, false, .nested type wire⟩
        (entries.map fun entries => .map (entries.map fun e => (e.1, .scalar e.2))) =
      some (puts (entryTable keyWire valueWire (joinPath name wire) 1
        ((entries.getD []).map fun e => (e.1.toText, e.2.toText)))) := by
  cases entries with
  | none => rfl
  | some entries => simp [memberWrites, writes, body, entryWrites_scalars scalar scalar']

theorem memberWrites_map_inj {key value keyWire valueWire : String}
    (body : m.encoderBody? type = some (.map key value keyWire valueWire))
    (scalar : m.encoderBody? key = some .scalar) (scalar' : m.encoderBody? value = some .scalar)
    {entries entries' : Option (List (Scalar × Scalar))} :
    m.memberWrites name ⟨field, false, .nested type wire⟩
          (entries.map fun entries => .map (entries.map fun e => (e.1, .scalar e.2))) =
        m.memberWrites name ⟨field, false, .nested type wire⟩
          (entries'.map fun entries => .map (entries.map fun e => (e.1, .scalar e.2))) ↔
      (entries.getD []).map (fun e => (e.1.toText, e.2.toText)) =
        (entries'.getD []).map fun e => (e.1.toText, e.2.toText) := by
  rw [memberWrites_map body scalar scalar', memberWrites_map body scalar scalar', Option.some_inj]
  exact ⟨fun same => entryTable_inj (puts_inj same), fun same => by rw [same]⟩

end Scalars
end Module

/-- Every parameter is new when it is put. -/
def PutsNew (r : Request) (ws : List Write) : Prop :=
  ∀ before param text after, ws = before ++ .param param text :: after →
    (r.writeAll before).params.get? param = none

/-- A fresh request holds the table that is written to it. -/
theorem params_of_puts {r : Request} (fresh : r.params = []) {t : Table}
    (distinct : (t.map (·.1)).Nodup) : (r.writeAll (puts t)).params = t := by
  have held := Request.params_writeAll (r := r) (t := t) (by simpa [fresh] using distinct)
  rwa [fresh, List.nil_append] at held

theorem Fills.putsNew {r : Request} (fresh : r.params = []) {path : String} {t : Table}
    (fills : Fills path t) : PutsNew r (puts t) := by
  intro before param text after split
  obtain ⟨first, rest, rfl, rfl, last⟩ := List.map_eq_append_iff.mp split
  obtain ⟨e, rest, rfl, same, rfl⟩ := List.map_eq_cons_iff.mp last
  cases same
  have distinct := fills.distinct
  rw [List.map_append, List.map_cons, List.nodup_append] at distinct
  obtain ⟨earlier, -, apart⟩ := distinct
  have held : (r.writeAll (first.map fun e => .param e.1 e.2)).params = first :=
    params_of_puts fresh earlier
  rw [held, Table.get?, List.lookup_eq_none_iff]
  intro other mem
  exact bne_iff_ne.mpr fun same =>
    apart _ (List.mem_map_of_mem mem) _ List.mem_cons_self same.symm

end ServiceClient.Codec
