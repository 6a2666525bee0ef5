import ServiceClient.Proofs.Codec.Consumption

/-! Decoders that always come to a result. Every codec that a ready type calls exists and fits, and
the loops over elements have turns enough, as each turn takes an opening tag at least. -/

namespace ServiceClient.Codec
open ServiceClient.Markup ServiceClient.Schema ServiceClient.Wire

namespace Outcome
variable {α β : Type}

theorem run_bind_eq_none {x : Outcome α} {f : α → Outcome β} :
    (x >>= f).run = none ↔ x.run = none ∨ ∃ a, x.run = some (.ok a) ∧ (f a).run = none := by
  simp only [ExceptT.run, bind, ExceptT.bind, ExceptT.mk]
  cases first : x with
  | none => simp
  | some r => cases r <;> simp [ExceptT.bindCont, pure]

theorem run_ofExcept_ne_none (r : Except ParseError α) : (ofExcept r).run ≠ none := nofun

end Outcome

namespace Reading
variable {α β : Type}

/-- The reading succeeds or fails on any events. -/
def Total (x : Reading α) : Prop :=
  ∀ events, x.run events ≠ none

/-- On success at an opening tag, the tag has been taken. -/
def Progresses (tag : String) (x : Reading α) : Prop :=
  ∀ ⦃events a left⦄, Yields x (.opening tag :: events) a left → left.length ≤ events.length

theorem Consumes.length_le {x : Reading α} (consumes : Consumes x) {events left : List Event}
    {a : α} (yields : Yields x events a left) : left.length ≤ events.length := by
  obtain ⟨used, rfl, -⟩ := consumes yields
  simp

section Parts
variable {x : Reading α} {f : α → Reading β} {tag : String} {events : List Event}

theorem run_bind_eq_none : (x >>= f).run events = none ↔
    x.run events = none ∨ ∃ a rest, Yields x events a rest ∧ (f a).run rest = none := by
  rw [run_bind, Option.bind_eq_none_iff]
  constructor
  · intro stuck
    cases first : x.run events with
    | none => exact .inl rfl
    | some read =>
      have second := stuck read first
      obtain ⟨_ | a, rest⟩ := read
      · cases second
      · exact .inr ⟨a, rest, first, second⟩
  · rintro (stuck | ⟨a, rest, first, second⟩) read here
    · rw [stuck] at here
      cases here
    · obtain rfl := Option.some.inj (here.symm.trans first)
      exact second

theorem total_bind (first : Total x)
    (later : ∀ events a rest, Yields x events a rest → (f a).run rest ≠ none) :
    Total (x >>= f) := by
  intro events stuck
  rcases run_bind_eq_none.mp stuck with stuck | ⟨a, rest, read, stuck⟩
  · exact first events stuck
  · exact later events a rest read stuck

theorem total_pure (a : α) : Total (pure a) := nofun

theorem total_pull (f : List Event → Pulled α) : Total (pull f) := nofun

theorem total_remaining : Total remaining := nofun

theorem total_ofOutcome {r : Outcome α} (settled : r.run ≠ none) : Total (ofOutcome r) := by
  intro events stuck
  exact settled (Option.map_eq_none_iff.mp stuck)

theorem total_within (inner : Total x) : Total (within tag x) :=
  total_bind (total_pull _) fun _ _ _ _ => total_bind inner
    (fun _ _ _ _ => total_bind (total_pull _) (fun _ _ _ _ => total_pure _ _) _) _

theorem progresses_within (inner : Consumes x) {name : String} :
    Progresses name (within tag x) := by
  intro events a left yields
  obtain ⟨body, rest, opens, read, closes⟩ := yields_within.mp yields
  obtain ⟨-, rfl⟩ := List.cons.inj opens
  have shorter := inner.length_le read
  have blank : (skipBlank rest).length ≤ rest.length := (List.dropWhile_suffix _).length_le
  rw [closes, List.length_cons] at blank
  omega

theorem progresses_bind (first : Progresses tag x) (later : ∀ a, Consumes (f a)) :
    Progresses tag (x >>= f) := by
  intro events b left yields
  obtain ⟨a, rest, read, read'⟩ := yields_bind.mp yields
  exact Nat.le_trans ((later a).length_le read') (first read)

theorem peekStart_eq_some {name : String} {rest : List Event}
    (peeked : peekStart events = (.ok (some name), rest)) :
    ∃ left, rest = .opening name :: left ∧ rest.length ≤ events.length := by
  have shorter : (skipBlank events).length ≤ events.length := (List.dropWhile_suffix _).length_le
  simp only [peekStart] at peeked
  split at peeked
  · rename_i found left opens
    obtain ⟨rfl, rfl⟩ : found = name ∧ skipBlank events = rest := by simpa using peeked
    exact ⟨left, opens, shorter⟩
  · simp at peeked
  · simp at peeked

end Parts

section Loops
variable {tag : String} {one : Reading α} {child : String → α → Reading α}

theorem gather_settles (total : Total one) (progress : Progresses tag one) {limit : Nat}
    {events : List Event} (enough : events.length < limit) :
    (gather tag one limit).run events ≠ none := by
  induction limit generalizing events with
  | zero => exact absurd enough (Nat.not_lt_zero _)
  | succ limit ih =>
    intro stuck
    rcases run_bind_eq_none.mp stuck with stuck | ⟨next, rest, peeked, stuck⟩
    · exact total_pull _ _ stuck
    · split at stuck
      · rename_i same
        obtain ⟨left, rfl, shorter⟩ := peekStart_eq_some (same ▸ yields_pull.mp peeked)
        rcases run_bind_eq_none.mp stuck with stuck | ⟨x, rest, read, stuck⟩
        · exact total _ stuck
        have fewer := progress read
        rw [List.length_cons] at shorter
        rcases run_bind_eq_none.mp stuck with stuck | ⟨xs, rest, -, stuck⟩
        · exact ih (by omega) stuck
        · exact total_pure _ _ stuck
      · exact total_pure _ _ stuck

/-- Turns of the loop keep what every one of them keeps. -/
theorem keeps_children {Keeps : α → Prop}
    (keeps : ∀ name state events a left, Keeps state → Yields (child name state) events a left →
      Keeps a) {limit : Nat} {state a : α} {events left : List Event} (start : Keeps state)
    (yields : Yields (children child limit state) events a left) : Keeps a := by
  induction limit generalizing state events with
  | zero => exact absurd yields not_yields_missing
  | succ limit ih =>
    obtain ⟨next, rest, -, yields⟩ := yields_bind.mp yields
    cases next with
    | none =>
      obtain ⟨rfl, -⟩ := yields_pure.mp yields
      exact start
    | some name =>
      obtain ⟨next, rest, read, yields⟩ := yields_bind.mp yields
      exact ih (keeps _ _ _ _ _ start read) yields

theorem children_settle {Keeps : α → Prop}
    (total : ∀ name state, Keeps state → Total (child name state))
    (keeps : ∀ name state events a left, Keeps state → Yields (child name state) events a left →
      Keeps a)
    (progress : ∀ name state, Progresses name (child name state)) {limit : Nat} {state : α}
    (start : Keeps state) {events : List Event} (enough : events.length < limit) :
    (children child limit state).run events ≠ none := by
  induction limit generalizing state events with
  | zero => exact absurd enough (Nat.not_lt_zero _)
  | succ limit ih =>
    intro stuck
    rcases run_bind_eq_none.mp stuck with stuck | ⟨next, rest, peeked, stuck⟩
    · exact total_pull _ _ stuck
    · cases next with
      | none => exact total_pure _ _ stuck
      | some name =>
        obtain ⟨left, rfl, shorter⟩ := peekStart_eq_some (yields_pull.mp peeked)
        rcases run_bind_eq_none.mp stuck with stuck | ⟨next, rest, read, stuck⟩
        · exact total name state start _ stuck
        have fewer := progress _ _ read
        rw [List.length_cons] at shorter
        exact ih (keeps _ _ _ _ _ start read) (by omega) stuck

theorem yields_turns {events left : List Event} {limit : Nat}
    (yields : Yields turns events limit left) : limit = events.length + 1 ∧ left = events := by
  obtain ⟨_, _, read, yields⟩ := yields_bind.mp yields
  obtain ⟨rfl, rfl⟩ := yields_remaining.mp read
  obtain ⟨rfl, rfl⟩ := yields_pure.mp yields
  exact ⟨rfl, rfl⟩

theorem total_turns : Total turns :=
  total_bind total_remaining fun _ _ _ _ => total_pure _ _

theorem total_allChildren {Keeps : α → Prop}
    (total : ∀ name state, Keeps state → Total (child name state))
    (keeps : ∀ name state events a left, Keeps state → Yields (child name state) events a left →
      Keeps a)
    (progress : ∀ name state, Progresses name (child name state)) {state : α}
    (start : Keeps state) : Total (allChildren child state) := by
  refine total_bind total_turns fun events limit rest read => ?_
  obtain ⟨rfl, rfl⟩ := yields_turns read
  exact children_settle total keeps progress start (Nat.lt_succ_self _)

theorem total_gatherAll (total : Total one) (progress : Progresses tag one) :
    Total (gatherAll tag one) := by
  refine total_bind total_turns fun events limit rest read => ?_
  obtain ⟨rfl, rfl⟩ := yields_turns read
  exact gather_settles total progress (Nat.lt_succ_self _)

theorem progresses_gatherAll (consumes : Consumes one) (progress : Progresses tag one) :
    Progresses tag (gatherAll tag one) := by
  intro events xs left yields
  obtain ⟨limit, rest, read, yields⟩ := yields_bind.mp yields
  obtain ⟨rfl, rfl⟩ := yields_turns read
  rw [List.length_cons, gather] at yields
  obtain ⟨next, rest, peeked, yields⟩ := yields_bind.mp yields
  obtain ⟨rfl, rfl⟩ : some tag = next ∧ Event.opening tag :: events = rest := by
    simpa [peekStart, skipBlank_opening] using yields_pull.mp peeked
  rw [if_pos rfl] at yields
  exact progresses_bind progress
    (fun _ => consumes_bind (consumes_gather consumes _) fun _ => consumes_pure _) yields

theorem total_scalar (kind : PrimitiveKind) (tag : String) : Total (scalar kind tag) :=
  total_within (total_bind (total_pull _) fun _ _ _ _ => total_ofOutcome
    (Outcome.run_ofExcept_ne_none _) _)

end Loops
end Reading

open Reading

namespace Slots

theorem map_store (wire : String) (v : Value) (slots : Slots) :
    (store wire v slots).map (·.1) = slots.map (·.1) := by
  induction slots with
  | nil => rfl
  | cons s slots ih =>
    unfold store
    split
    · rfl
    · rw [List.map_cons, ih, List.map_cons]

theorem map_start (fields : List FieldRead) : (start fields).map (·.1) = fields := by
  simp [start, Function.comp_def]

theorem mem_of_member? {slots : Slots} {wire : String} {f : FieldRead}
    (found : slots.member? wire = some f) : f ∈ slots.map (·.1) ∧ f.isPart wire := by
  obtain ⟨s, met, rfl⟩ := Option.map_eq_some_iff.mp found
  have part := List.find?_some met
  exact ⟨List.mem_map_of_mem (List.mem_of_find?_eq_some met), part⟩

theorem readHeaders_settles (headers : Headers) {slots : Slots}
    (known : ∀ f ∈ slots.map (·.1), f.source ≠ .header none) :
    (slots.readHeaders headers).run ≠ none := by
  induction slots with
  | nil => nofun
  | cons s slots ih =>
    obtain ⟨f, slot⟩ := s
    have own : f.source ≠ .header none := known f List.mem_cons_self
    have rest := ih fun g mem => known g (List.mem_cons_of_mem _ mem)
    rw [readHeaders] at rest ⊢
    rw [List.mapM_cons]
    intro stuck
    rcases Outcome.run_bind_eq_none.mp stuck with stuck | ⟨s', -, stuck⟩
    · rcases source : f.source with (_ | kind) | element
      · exact own source
      · simp only [source] at stuck
        rcases Outcome.run_bind_eq_none.mp stuck with stuck | ⟨v, -, stuck⟩
        · exact Outcome.run_ofExcept_ne_none _ stuck
        · cases stuck
      · simp only [source] at stuck
        cases stuck
    · rcases Outcome.run_bind_eq_none.mp stuck with stuck | ⟨slots', -, stuck⟩
      · exact rest stuck
      · cases stuck

theorem close_settles (shape : String) (headers : Headers) {slots : Slots}
    (known : ∀ f ∈ slots.map (·.1), f.source ≠ .header none) :
    (slots.close shape headers).run ≠ none := by
  intro stuck
  rcases Outcome.run_bind_eq_none.mp stuck with stuck | ⟨slots', -, stuck⟩
  · exact readHeaders_settles headers known stuck
  · exact Outcome.run_ofExcept_ne_none _ stuck

end Slots

namespace Module
variable {m : Module} {headers : Headers}

/-- Whether the decoder of the type and all that it calls, through at most `depth` nested calls, are
there and fit. -/
def ready (m : Module) : (depth : Nat) → (type : String) → Bool
  | 0, _ => false
  | depth + 1, type =>
    match m.decoderBody? type with
    | none => false
    | some (.scalar _) => true
    | some (.list element) => m.ready depth element
    | some (.map key value _ _) => (m.scalarKind? key).isSome && m.ready depth value
    | some (.struct _ fields) =>
      fields.all fun f =>
        match f.source with
        | .header kind => kind.isSome
        | .body _ => m.ready depth f.type

theorem ready_struct_iff {type shape : String} {fields : List FieldRead} {depth : Nat}
    (body : m.decoderBody? type = some (.struct shape fields)) :
    m.ready (depth + 1) type ↔ (∀ f ∈ fields, f.source ≠ .header none) ∧
      ∀ f ∈ fields, f.isHeader = false → m.ready depth f.type := by
  rw [ready, body, ← forall₂_and, List.all_eq_true]
  refine forall₂_congr fun f _ => ?_
  rcases source : f.source with (_ | kind) | element <;> simp [FieldRead.isHeader, source]

/-- Whether the decoder of the type reads a structure. -/
def isStruct (m : Module) (type : String) : Bool :=
  match m.decoderBody? type with
  | some (.struct _ _) => true
  | _ => false

theorem exists_struct {type : String} (struct : m.isStruct type) :
    ∃ shape fields, m.decoderBody? type = some (.struct shape fields) := by
  unfold isStruct at struct
  split at struct
  · rename_i shape fields body
    exact ⟨shape, fields, body⟩
  · cases struct

theorem progresses_readXml (depth : Nat) (type tag : String) :
    Progresses tag (m.readXml headers depth type tag) := by
  induction depth generalizing type tag with
  | zero => exact fun _ _ _ yields => absurd yields not_yields_missing
  | succ depth ih =>
    unfold readXml
    split
    · exact fun _ _ _ yields => absurd yields not_yields_missing
    · exact progresses_bind (progresses_within (consumes_bind consumes_characters fun _ =>
        consumes_ofOutcome _)) fun _ => consumes_pure _
    · exact progresses_bind (progresses_gatherAll (consumes_readXml depth _ tag) (ih _ tag))
        fun _ => consumes_pure _
    · split
      · exact fun _ _ _ yields => absurd yields not_yields_missing
      · exact progresses_bind (progresses_gatherAll (consumes_within consumes_entry)
          (progresses_within consumes_entry)) fun _ => consumes_pure _
    · exact progresses_bind (progresses_within (consumes_allChildren
        (consumes_readChild (consumes_readXml depth)) _)) fun _ => consumes_ofOutcome _

section Children
variable {decode : String → String → Reading Value} {wire : String} {slots : Slots}

theorem progresses_readChild (consumes : ∀ type tag, Consumes (decode type tag))
    (progress : ∀ type tag, Progresses tag (decode type tag)) :
    Progresses wire (readChild decode wire slots) := by
  unfold readChild
  split
  · intro events a left yields
    obtain ⟨u, rest, skipped, yields⟩ := yields_bind.mp yields
    obtain ⟨-, rfl⟩ := yields_pure.mp yields
    obtain ⟨name, body, opens, dropped⟩ := skipElement_eq_ok (yields_pull.mp skipped)
    obtain ⟨-, rfl⟩ := List.cons.inj opens
    obtain ⟨used, rfl, -⟩ := Balanced.of_dropElements name dropped
    simp
  · dsimp only
    split
    · exact progresses_bind (progresses_within (consumes _ _)) fun v => consumes_pure _
    · exact progresses_bind (progress _ _) fun v => consumes_pure _

theorem keeps_readChild {events left : List Event} {reached : Slots}
    (yields : Yields (readChild decode wire slots) events reached left) :
    reached.map (·.1) = slots.map (·.1) := by
  unfold readChild at yields
  split at yields
  · obtain ⟨u, rest, -, yields⟩ := yields_bind.mp yields
    obtain ⟨rfl, -⟩ := yields_pure.mp yields
    rfl
  · dsimp only at yields
    split at yields
    · obtain ⟨v, rest, -, yields⟩ := yields_bind.mp yields
      obtain ⟨rfl, -⟩ := yields_pure.mp yields
      exact Slots.map_store _ v slots
    · obtain ⟨v, rest, -, yields⟩ := yields_bind.mp yields
      obtain ⟨rfl, -⟩ := yields_pure.mp yields
      exact Slots.map_store _ v slots

theorem total_readChild
    (total : ∀ f ∈ slots.map (·.1), f.isHeader = false → ∀ tag, Total (decode f.type tag)) :
    Total (readChild decode wire slots) := by
  unfold readChild
  split
  · exact total_bind (total_pull _) fun _ _ _ _ => total_pure _ _
  · rename_i f found
    obtain ⟨mem, part⟩ := Slots.mem_of_member? found
    have own : f.isHeader = false := by
      simp only [FieldRead.isPart, Bool.and_eq_true, Bool.not_eq_true'] at part
      exact part.1
    dsimp only
    split
    · exact total_bind (total_within (total f mem own _)) fun _ _ _ _ => total_pure _ _
    · exact total_bind (total f mem own _) fun _ _ _ _ => total_pure _ _

end Children

/-- A structure is decoded to a value or an error if the members of its body are. -/
theorem total_readStruct {depth : Nat} {shape : String} {fields : List FieldRead}
    (known : ∀ f ∈ fields, f.source ≠ .header none)
    (members : ∀ f ∈ fields, f.isHeader = false → ∀ tag, Total (m.readXml headers depth f.type tag))
    (tag : String) :
    Total (do
      let slots ← within tag
        (allChildren (readChild (m.readXml headers depth)) (Slots.start fields))
      ofOutcome (slots.close shape headers)) := by
  have total : ∀ name (slots : Slots), slots.map (·.1) = fields →
      Total (readChild (m.readXml headers depth) name slots) := by
    rintro name slots rfl
    exact total_readChild members
  have keeps : ∀ name (slots : Slots) events reached left, slots.map (·.1) = fields →
      Yields (readChild (m.readXml headers depth) name slots) events reached left →
      reached.map (·.1) = fields := by
    rintro name slots events reached left rfl yields
    exact keeps_readChild yields
  have progress : ∀ name slots,
      Progresses name (readChild (m.readXml headers depth) name slots) := fun name slots =>
    progresses_readChild (consumes_readXml depth) (progresses_readXml depth)
  have start : (Slots.start fields).map (·.1) = fields := Slots.map_start fields
  refine total_bind (total_within (total_allChildren total keeps progress start))
    fun events slots left read => total_ofOutcome ?_ _
  obtain ⟨inner, rest, -, read, -⟩ := yields_within.mp read
  obtain ⟨limit, rest, -, read⟩ := yields_bind.mp read
  have kept := keeps_children keeps start read
  exact Slots.close_settles shape headers (kept ▸ known)

/-- A ready type is decoded to a value or an error, whatever the events are. -/
theorem total_readXml {bound depth : Nat} {type : String} (ready : m.ready bound type)
    (enough : bound ≤ depth) (tag : String) : Total (m.readXml headers depth type tag) := by
  induction bound generalizing depth type tag with
  | zero => cases ready
  | succ bound ih =>
    obtain ⟨depth, rfl⟩ := Nat.exists_eq_add_of_le' (Nat.le_trans (Nat.le_add_left 1 bound) enough)
    have enough : bound ≤ depth := Nat.le_of_succ_le_succ enough
    unfold readXml
    cases body : m.decoderBody? type with
    | none => simp [Module.ready, body] at ready
    | some decoder =>
      cases decoder with
      | scalar kind => exact total_bind (total_scalar kind tag) fun _ _ _ _ => total_pure _ _
      | list element =>
        have ready : m.ready bound element := by simpa [Module.ready, body] using ready
        exact total_bind
          (total_gatherAll (ih ready enough tag) (progresses_readXml depth element tag))
          fun _ _ _ _ => total_pure _ _
      | map key value keyWire valueWire =>
        obtain ⟨known, ready⟩ : (m.scalarKind? key).isSome ∧ m.ready bound value := by
          simpa [Module.ready, body] using ready
        obtain ⟨kind, kinds⟩ := Option.isSome_iff_exists.mp known
        have total : Total (do
            let k ← scalar kind keyWire
            let v ← m.readXml headers depth value valueWire
            pure (k, v)) :=
          total_bind (total_scalar _ _) fun _ _ _ _ =>
            total_bind (ih ready enough valueWire) (fun _ _ _ _ => total_pure _ _) _
        simp only [kinds]
        exact total_bind (total_gatherAll (total_within total)
          (progresses_within consumes_entry)) fun _ _ _ _ => total_pure _ _
      | struct shape fields =>
        obtain ⟨known, members⟩ := (ready_struct_iff body).mp ready
        exact total_readStruct known (fun f mem own => ih (members f mem own) enough) tag

theorem callDepth_deep (m : Module) (events : List Event) :
    m.shapes.length + 1 ≤ m.callDepth events :=
  Nat.le_mul_of_pos_left _ (Nat.succ_pos _)

theorem decodeXml_run (type tag : String) (events : List Event) :
    (m.decodeXml headers type tag).run events =
      (m.readXml headers (m.callDepth events) type tag).run events := by
  have ran : remaining.run events = some (.ok events, events) := rfl
  rw [decodeXml, run_bind, ran, Option.bind_some]

end Module
end ServiceClient.Codec
