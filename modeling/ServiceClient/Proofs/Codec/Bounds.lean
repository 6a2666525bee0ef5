import ServiceClient.Proofs.Codec.Readiness

/-! Bounds that decoding never feels. Where a reading settles, more nested calls or more turns of a
loop settle it in the same way. So the loops may be unrolled without counting their turns, and a
decoder does the same at every depth that it is ready for. -/

namespace ServiceClient.Codec
open ServiceClient.Markup ServiceClient.Schema ServiceClient.Wire

namespace Reading
variable {α β : Type} {x y : Reading α} {f g : α → Reading β} {tag : String}

/-- Where `x` settles, `y` does the same. -/
def Refines (x y : Reading α) : Prop :=
  ∀ ⦃events read⦄, x.run events = some read → y.run events = some read

theorem Refines.rfl : Refines x x :=
  fun _ _ settled => settled

theorem refines_missing : Refines missing x := nofun

theorem Refines.bind (first : Refines x y) (later : ∀ a, Refines (f a) (g a)) :
    Refines (x >>= f) (y >>= g) := by
  intro events read settled
  rw [run_bind] at settled ⊢
  obtain ⟨⟨_ | a, rest⟩, before, after⟩ := Option.bind_eq_some_iff.mp settled
  · rw [first before]
    exact after
  · rw [first before]
    exact later a after

theorem Refines.within (inner : Refines x y) : Refines (within tag x) (within tag y) :=
  .bind .rfl fun _ => .bind inner fun _ => .rfl

theorem Refines.gatherAll (each : Refines x y) : Refines (gatherAll tag x) (gatherAll tag y) := by
  refine .bind .rfl fun limit => ?_
  induction limit with
  | zero => exact refines_missing
  | succ limit ih =>
    refine .bind .rfl fun next => ?_
    split
    · exact .bind each fun _ => .bind ih fun _ => .rfl
    · exact .rfl

theorem Refines.allChildren {child child' : String → α → Reading α}
    (each : ∀ name state, Refines (child name state) (child' name state)) (state : α) :
    Refines (allChildren child state) (allChildren child' state) := by
  refine .bind .rfl fun limit => ?_
  induction limit generalizing state with
  | zero => exact refines_missing
  | succ limit ih =>
    refine .bind .rfl fun next => ?_
    cases next with
    | none => exact .rfl
    | some name => exact .bind (each name state) ih

section Turns
variable {one : Reading α} {child : String → α → Reading α}

theorem yields_gather_of_lt (progress : Progresses tag one) {limit limit' : Nat}
    {events left : List Event} {xs : List α} (yields : Yields (gather tag one limit) events xs left)
    (enough : events.length < limit') : Yields (gather tag one limit') events xs left := by
  induction limit generalizing limit' events xs with
  | zero => exact absurd yields not_yields_missing
  | succ limit ih =>
    obtain ⟨limit', rfl⟩ := Nat.exists_eq_add_of_le' (Nat.succ_le_of_lt (Nat.zero_lt_of_lt enough))
    obtain ⟨next, rest, peeked, yields⟩ := yields_bind.mp yields
    refine yields_bind.mpr ⟨next, rest, peeked, ?_⟩
    by_cases same : next = some tag
    · rw [if_pos same] at yields ⊢
      obtain ⟨body, rfl, shorter⟩ := peekStart_eq_some (same ▸ yields_pull.mp peeked)
      obtain ⟨x, mid, read, yields⟩ := yields_bind.mp yields
      obtain ⟨xs, mid', read', yields⟩ := yields_bind.mp yields
      obtain ⟨rfl, rfl⟩ := yields_pure.mp yields
      have fewer := progress read
      rw [List.length_cons] at shorter
      have enough : mid.length < limit' := by omega
      exact yields_bind.mpr ⟨x, mid, read, yields_bind.mpr ⟨xs, mid', ih read' enough, rfl⟩⟩
    · rw [if_neg same] at yields ⊢
      exact yields

theorem yields_children_of_lt (progress : ∀ name state, Progresses name (child name state))
    {limit limit' : Nat} {state a : α} {events left : List Event}
    (yields : Yields (children child limit state) events a left) (enough : events.length < limit') :
    Yields (children child limit' state) events a left := by
  induction limit generalizing limit' state events with
  | zero => exact absurd yields not_yields_missing
  | succ limit ih =>
    obtain ⟨limit', rfl⟩ := Nat.exists_eq_add_of_le' (Nat.succ_le_of_lt (Nat.zero_lt_of_lt enough))
    obtain ⟨next, rest, peeked, yields⟩ := yields_bind.mp yields
    refine yields_bind.mpr ⟨next, rest, peeked, ?_⟩
    cases next with
    | none => exact yields
    | some name =>
      obtain ⟨body, rfl, shorter⟩ := peekStart_eq_some (yields_pull.mp peeked)
      obtain ⟨state', mid, read, yields⟩ := yields_bind.mp yields
      have fewer := progress name state read
      rw [List.length_cons] at shorter
      have enough : mid.length < limit' := by omega
      exact yields_bind.mpr ⟨state', mid, read, ih yields enough⟩

theorem yields_gatherAll_iff_gather (progress : Progresses tag one) {events left : List Event}
    {xs : List α} :
    Yields (gatherAll tag one) events xs left ↔
      ∃ limit, Yields (gather tag one limit) events xs left := by
  constructor
  · intro yields
    obtain ⟨limit, rest, read, yields⟩ := yields_bind.mp yields
    obtain ⟨rfl, rfl⟩ := yields_turns read
    exact ⟨_, yields⟩
  · rintro ⟨limit, yields⟩
    exact yields_bind.mpr ⟨_, _, rfl, yields_gather_of_lt progress yields (Nat.lt_succ_self _)⟩

theorem yields_allChildren_iff_children
    (progress : ∀ name state, Progresses name (child name state)) {state a : α}
    {events left : List Event} :
    Yields (allChildren child state) events a left ↔
      ∃ limit, Yields (children child limit state) events a left := by
  constructor
  · intro yields
    obtain ⟨limit, rest, read, yields⟩ := yields_bind.mp yields
    obtain ⟨rfl, rfl⟩ := yields_turns read
    exact ⟨_, yields⟩
  · rintro ⟨limit, yields⟩
    exact yields_bind.mpr ⟨_, _, rfl, yields_children_of_lt progress yields (Nat.lt_succ_self _)⟩

/-- Gathering goes on after each element that is read. -/
theorem yields_gatherAll_iff (progress : Progresses tag one) {events left : List Event}
    {xs : List α} : Yields (gatherAll tag one) events xs left ↔
      ∃ next rest, peekStart events = (.ok next, rest) ∧
      if next = some tag then
        ∃ x mid xs', Yields one rest x mid ∧ Yields (gatherAll tag one) mid xs' left ∧ xs = x :: xs'
      else xs = [] ∧ left = rest := by
  simp only [yields_gatherAll_iff_gather progress]
  constructor
  · rintro ⟨_ | limit, yields⟩
    · exact absurd yields not_yields_missing
    obtain ⟨next, rest, peeked, yields⟩ := yields_bind.mp yields
    refine ⟨next, rest, yields_pull.mp peeked, ?_⟩
    split at yields
    · rename_i same
      rw [if_pos same]
      obtain ⟨x, mid, read, yields⟩ := yields_bind.mp yields
      obtain ⟨xs', mid', read', yields⟩ := yields_bind.mp yields
      obtain ⟨rfl, rfl⟩ := yields_pure.mp yields
      exact ⟨x, mid, xs', read, ⟨limit, read'⟩, rfl⟩
    · rename_i other
      rw [if_neg other]
      obtain ⟨rfl, rfl⟩ := yields_pure.mp yields
      exact ⟨rfl, rfl⟩
  · rintro ⟨next, rest, peeked, yields⟩
    split at yields
    · rename_i same
      obtain ⟨x, mid, xs', read, ⟨limit, read'⟩, rfl⟩ := yields
      refine ⟨limit + 1, yields_bind.mpr ⟨next, rest, yields_pull.mpr peeked, ?_⟩⟩
      rw [if_pos same]
      exact yields_bind.mpr ⟨x, mid, read, yields_bind.mpr ⟨xs', left, read', rfl⟩⟩
    · rename_i other
      obtain ⟨rfl, rfl⟩ := yields
      refine ⟨1, yields_bind.mpr ⟨next, left, yields_pull.mpr peeked, ?_⟩⟩
      rw [if_neg other]
      exact yields_pure.mpr ⟨rfl, rfl⟩

/-- The loop over children goes on after each of them. -/
theorem yields_allChildren_iff (progress : ∀ name state, Progresses name (child name state))
    {state a : α} {events left : List Event} :
    Yields (allChildren child state) events a left ↔
      ∃ next rest, peekStart events = (.ok next, rest) ∧
        match next with
        | none => a = state ∧ left = rest
        | some name => ∃ state' mid, Yields (child name state) rest state' mid ∧
            Yields (allChildren child state') mid a left := by
  simp only [yields_allChildren_iff_children progress]
  constructor
  · rintro ⟨_ | limit, yields⟩
    · exact absurd yields not_yields_missing
    obtain ⟨next, rest, peeked, yields⟩ := yields_bind.mp yields
    refine ⟨next, rest, yields_pull.mp peeked, ?_⟩
    cases next with
    | none =>
      obtain ⟨rfl, rfl⟩ := yields_pure.mp yields
      exact ⟨rfl, rfl⟩
    | some name =>
      obtain ⟨state', mid, read, yields⟩ := yields_bind.mp yields
      exact ⟨state', mid, read, limit, yields⟩
  · rintro ⟨next, rest, peeked, yields⟩
    cases next with
    | none =>
      obtain ⟨rfl, rfl⟩ := yields
      exact ⟨1, yields_bind.mpr ⟨none, left, yields_pull.mpr peeked, yields_pure.mpr ⟨rfl, rfl⟩⟩⟩
    | some name =>
      obtain ⟨state', mid, read, limit, yields⟩ := yields
      exact ⟨limit + 1, yields_bind.mpr ⟨some name, rest, yields_pull.mpr peeked,
        yields_bind.mpr ⟨state', mid, read, yields⟩⟩⟩

end Turns
end Reading

namespace Module
open Reading
variable {m : Module} {headers : Headers}

theorem refines_readChild {decode decode' : String → String → Reading Value}
    (each : ∀ type tag, Refines (decode type tag) (decode' type tag)) (wire : String)
    (slots : Slots) : Refines (readChild decode wire slots) (readChild decode' wire slots) := by
  unfold readChild
  split
  · exact .rfl
  · dsimp only
    split
    · exact .bind (.within (each _ _)) fun _ => .rfl
    · exact .bind (each _ _) fun _ => .rfl

theorem refines_readXml {depth depth' : Nat} (shallow : depth ≤ depth') (type tag : String) :
    Refines (m.readXml headers depth type tag) (m.readXml headers depth' type tag) := by
  induction depth generalizing depth' type tag with
  | zero => exact refines_missing
  | succ depth ih =>
    obtain ⟨depth', rfl⟩ :=
      Nat.exists_eq_add_of_le' (Nat.le_trans (Nat.le_add_left 1 depth) shallow)
    have ih := ih (Nat.le_of_succ_le_succ shallow)
    unfold readXml
    split
    · exact .rfl
    · exact .rfl
    · exact .bind (.gatherAll (ih _ tag)) fun _ => .rfl
    · split
      · exact .rfl
      · exact .bind (.gatherAll (.within (.bind .rfl fun _ => .bind (ih _ _) fun _ => .rfl)))
          fun _ => .rfl
    · exact .bind (.within (.allChildren (refines_readChild ih) _)) fun _ => .rfl

/-- Any depth that the type is ready for is as good as another. -/
theorem readXml_run_eq {bound depth : Nat} {type : String} (ready : m.ready bound type)
    (enough : bound ≤ depth) (tag : String) (events : List Event) :
    (m.readXml headers depth type tag).run events =
      (m.readXml headers bound type tag).run events := by
  have total : Total (m.readXml headers bound type tag) := total_readXml ready (Nat.le_refl _) tag
  obtain ⟨read, settled⟩ := Option.ne_none_iff_exists'.mp (total events)
  rw [settled]
  exact refines_readXml enough type tag settled

theorem decodeXml_run_eq {depth : Nat} {type : String} (ready : m.ready (m.shapes.length + 1) type)
    (enough : m.shapes.length + 1 ≤ depth) (tag : String) (events : List Event) :
    (m.decodeXml headers type tag).run events = (m.readXml headers depth type tag).run events := by
  calc (m.decodeXml headers type tag).run events
      = (m.readXml headers (m.callDepth events) type tag).run events :=
        decodeXml_run type tag events
    _ = (m.readXml headers (m.shapes.length + 1) type tag).run events :=
        readXml_run_eq ready (m.callDepth_deep events) tag events
    _ = (m.readXml headers depth type tag).run events :=
        (readXml_run_eq ready enough tag events).symm

end Module
end ServiceClient.Codec
