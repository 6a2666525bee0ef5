import ServiceClient.Proofs.Markup.Depth
import ServiceClient.Proofs.Markup.Moves
import ServiceClient.Proofs.Markup.Rendered
import Mathlib.Data.List.Induction

/-! The root element within the bytes of a document. A document cut short anywhere in it either has
no events at all or leaves the root without an end. -/

namespace ServiceClient.Markup

theorem isOpening_addText {t : String} {events : List Event}
    (unopened : ∀ e ∈ events, e.isOpening = false) :
    ∀ e ∈ addText t events, e.isOpening = false := by
  intro e mem
  unfold addText at mem
  split at mem
  · rename_i t' events
    rcases List.mem_cons.mp mem with rfl | mem
    · rfl
    · exact unopened e (List.mem_cons_of_mem _ mem)
  · rcases List.mem_cons.mp mem with rfl | mem
    · rfl
    · exact unopened e mem

namespace Unclosed
variable {xs : List Event} {depth : Nat}

theorem pos (h : Unclosed xs depth) : 0 < depth := by
  induction h with
  | root | opening | closing => omega
  | text before s ih => exact ih

theorem any_isOpening (h : Unclosed xs depth) : xs.any Event.isOpening := by
  induction h with
  | root | opening => simp [Event.isOpening]
  | text before s ih => simp [ih]
  | closing before name ih => simp [ih]

end Unclosed

namespace Scan

/-- No element has been opened so far. -/
structure Outside (s : Scan) : Prop where
  unopened : ∀ e ∈ s.events, e.isOpening = false
  none : s.opened = []

/-- The start tag of the root is being read, or the root is open. -/
inductive Within (s : Scan) : Prop
  | tag (outside : s.Outside) (place : s.place.isTag)
  | inner (unclosed : Unclosed s.events s.opened.length)

/-- No element is open, and none is being opened. -/
structure Closed (s : Scan) : Prop where
  none : s.opened = []
  data : s.place = .text []

/-- The scan is behind a closed root after these bytes, and after no fewer of them. -/
structure Ends (s : Scan) (bytes : List UInt8) : Prop where
  closed : ∃ s', s.run bytes = some s' ∧ s'.Closed
  first : ∀ part, part <+: bytes → part ≠ [] → part ≠ bytes →
    ∀ s', s.run part = some s' → ¬s'.Closed

section Moves
variable {s s' : Scan} {b : UInt8}

theorem Within.not_closed (h : s.Within) : ¬s.Closed := by
  rintro ⟨none, data⟩
  cases h with
  | tag outside place => simp [data, Place.isTag] at place
  | inner unclosed => simpa [none] using unclosed.pos

theorem Outside.addText (h : s.Outside) (t : String) (place : Place) :
    Outside ⟨s.opened, addText t s.events, place⟩ :=
  ⟨isOpening_addText h.unopened, h.none⟩

/-- A start tag goes on, or opens the root, or is all of it. -/
theorem Outside.move (h : s.Outside) (inside : s.InTag b) (moved : s.Move b s') :
    s'.Within ∨ s'.Closed := by
  cases moved with
  | stay before => exact absurd inside before
  | text before => exact absurd inside before
  | markup flushed data => simp [InTag, data, Place.isTag] at inside
  | tag _ quote content => exact .inl (.tag ⟨h.unopened, h.none⟩ rfl)
  | opens _ full name =>
    refine .inl (.inner ?_)
    simpa [h.none] using Unclosed.root h.unopened name
  | whole _ name => exact .inr ⟨h.none, rfl⟩
  | closes inner => simp [h.none] at inner

theorem Within.move (h : s.Within) (moved : s.Move b s') : s'.Within ∨ s'.Closed := by
  cases h with
  | tag outside place => exact outside.move (.inl place) moved
  | inner unclosed =>
    cases moved with
    | stay => exact .inl (.inner unclosed)
    | text _ _ _ t => exact .inl (.inner (unclosed.addText t))
    | markup flushed =>
      obtain rfl | ⟨t, rfl⟩ := flushed
      · exact .inl (.inner unclosed)
      · exact .inl (.inner (unclosed.addText t))
    | tag => exact .inl (.inner unclosed)
    | opens _ full name => exact .inl (.inner (unclosed.opening name))
    | whole _ name =>
      obtain ⟨depth, deep⟩ := Nat.exists_eq_succ_of_ne_zero (Nat.ne_of_gt unclosed.pos)
      refine .inl (.inner ?_)
      rw [deep] at unclosed ⊢
      exact (unclosed.opening name).closing name
    | @closes full opened inner name =>
      cases opened with
      | nil => exact .inr ⟨rfl, rfl⟩
      | cons outer opened =>
        rw [inner] at unclosed
        exact .inl (.inner (unclosed.closing name))

end Moves

section Runs
variable {s s' next : Scan} {b : UInt8} {bytes : List UInt8}

theorem Ends.cons (stepped : s.step b = some next) (proper : ¬next.Closed)
    (ends : next.Ends bytes) : s.Ends (b :: bytes) where
  closed := by
    obtain ⟨s', ran, closed⟩ := ends.closed
    exact ⟨s', by rw [run_cons, stepped, Option.bind_some, ran], closed⟩
  first := by
    intro part front filled other s' ran
    obtain ⟨rest, rfl, later⟩ := (List.prefix_cons_iff.mp front).resolve_left filled
    rw [run_cons, stepped, Option.bind_some] at ran
    cases rest with
    | nil =>
      obtain rfl := Option.some.inj ran
      exact proper
    | cons c rest =>
      exact ends.first _ later (List.cons_ne_nil c rest) (fun same => other (by rw [same])) s' ran

theorem Ends.single (stepped : s.step b = some next) (closed : next.Closed) : s.Ends [b] where
  closed := ⟨next, by rw [run_cons, stepped]; rfl, closed⟩
  first := by
    intro part front filled other
    obtain ⟨rest, rfl, later⟩ := (List.prefix_cons_iff.mp front).resolve_left filled
    rw [List.prefix_nil.mp later] at other
    exact absurd rfl other

/-- The scan stays within the root, or the root ends at some byte. -/
def Stays (s : Scan) (bytes : List UInt8) (s' : Scan) : Prop :=
  s'.Within ∨ ∃ part, part <+: bytes ∧ part ≠ [] ∧ s.Ends part

theorem stays_cons (stepped : s.step b = some next) (reached : next.Within ∨ next.Closed)
    (later : next.Within → next.Stays bytes s') : s.Stays (b :: bytes) s' := by
  rcases reached with within | closed
  · rcases later within with within' | ⟨part, front, filled, ends⟩
    · exact .inl within'
    · exact .inr ⟨b :: part, List.cons_prefix_cons.mpr ⟨rfl, front⟩, List.cons_ne_nil b part,
        ends.cons stepped within.not_closed⟩
  · exact .inr ⟨[b], List.cons_prefix_cons.mpr ⟨rfl, List.nil_prefix⟩, List.cons_ne_nil b [],
      .single stepped closed⟩

theorem Within.stays (h : s.Within) (ran : s.run bytes = some s') : s.Stays bytes s' := by
  induction bytes generalizing s with
  | nil =>
    obtain rfl := Option.some.inj ran
    exact .inl h
  | cons b bytes ih =>
    rw [run_cons] at ran
    obtain ⟨next, stepped, ran⟩ := Option.bind_eq_some_iff.mp ran
    exact stays_cons stepped (h.move (step_move stepped)) fun within => ih within ran

theorem Outside.stays (h : s.Outside) (inside : s.InTag b) (ran : s.run (b :: bytes) = some s') :
    s.Stays (b :: bytes) s' := by
  rw [run_cons] at ran
  obtain ⟨next, stepped, ran⟩ := Option.bind_eq_some_iff.mp ran
  exact stays_cons stepped (h.move inside (step_move stepped)) fun within => within.stays ran

/-- The `<` of a tag ends the text before it. -/
theorem Outside.step_sign (h : s.Outside) {piece : List UInt8} (data : s.place = .text piece)
    (stepped : s.step (ascii '<') = some s') : s'.Outside ∧ s'.place = .markup := by
  simp only [step, data, if_true] at stepped
  obtain ⟨t, ended, moved⟩ := Option.bind_eq_some_iff.mp stepped
  obtain ⟨events, rfl, rfl | ⟨t, rfl⟩⟩ := endPiece_eq_some ended
  · obtain rfl := Option.some.inj moved
    exact ⟨⟨h.unopened, h.none⟩, rfl⟩
  · obtain rfl := Option.some.inj moved
    exact ⟨h.addText t _, rfl⟩

end Runs

section Finish
variable {s : Scan} {events : List Event}

theorem finish_eq_some (finished : s.finish = some events) : (∃ piece, s.place = .text piece) ∧
    ∃ last, events = last.reverse ∧ (last = s.events ∨ ∃ t, last = addText t s.events) := by
  unfold finish at finished
  split at finished
  · rename_i piece data
    obtain ⟨s', ended, rfl⟩ := Option.map_eq_some_iff.mp finished
    obtain ⟨last, rfl, flushed⟩ := endPiece_eq_some ended
    exact ⟨⟨piece, data⟩, last, rfl, flushed⟩
  · cases finished

theorem Outside.finish (h : s.Outside) (finished : s.finish = some events) :
    events.any Event.isOpening = false := by
  obtain ⟨-, last, rfl, rfl | ⟨t, rfl⟩⟩ := finish_eq_some finished
  · simpa using h.unopened
  · simpa using isOpening_addText h.unopened

theorem Within.finish (h : s.Within) (finished : s.finish = some events) :
    events.any Event.isOpening ∧ dropElements 1 (afterRoot events) = none := by
  obtain ⟨⟨piece, data⟩, last, rfl, flushed⟩ := finish_eq_some finished
  cases h with
  | tag outside place => simp [data, Place.isTag] at place
  | inner unclosed =>
    have reached : Unclosed last s.opened.length := by
      obtain rfl | ⟨t, rfl⟩ := flushed
      · exact unclosed
      · exact unclosed.addText t
    exact ⟨by rw [List.any_reverse]; exact reached.any_isOpening, reached.dropElements_eq_none⟩

end Finish
end Scan

/-- Bytes behind which no element has been opened yet and character data may go on. -/
structure Prolog (bytes : List UInt8) (s : Scan) : Prop where
  ran : Scan.run {} bytes = some s
  outside : s.Outside
  data : ∃ piece, s.place = .text piece

/-- `element` reaches from the `<` of the first start tag, which stands behind `before`, to the `>`
that ends the root. -/
structure RootElement (before element : List UInt8) : Prop where
  scanned : ∃ s, Prolog (dropMark before) s ∧ s.Ends element
  tag : ∃ c rest, element = ascii '<' :: c :: rest ∧ c ∉ [ascii '/', ascii '!', ascii '?']

theorem dropMark_append (before rest : List UInt8) :
    dropMark (before ++ ascii '<' :: rest) = dropMark before ++ ascii '<' :: rest := by
  rcases before with _ | ⟨a, _ | ⟨b, _ | ⟨c, before⟩⟩⟩
  · rfl
  · simp [dropMark, ascii]
  · simp [dropMark, ascii]
  · unfold dropMark
    split <;> split <;> simp_all

/-- Cut short within its root, a document has no events or leaves the root without an end. -/
theorem RootElement.cut {before element part : List UInt8} (root : RootElement before element)
    (front : part <+: element) (filled : part ≠ []) (proper : part ≠ element) {events : List Event}
    (scanned : events? (before ++ part) = some events) :
    events.any Event.isOpening ∧ dropElements 1 (afterRoot events) = none := by
  obtain ⟨⟨s, ⟨ran, outside, piece, data⟩, ends⟩, c, rest, rfl, start⟩ := root
  obtain ⟨t, rfl, later⟩ := (List.prefix_cons_iff.mp front).resolve_left filled
  rw [events?, dropMark_append, Scan.run_append, ran, Option.bind_some] at scanned
  obtain ⟨last, through, finished⟩ := Option.bind_eq_some_iff.mp scanned
  rw [Scan.run_cons] at through
  obtain ⟨next, stepped, through⟩ := Option.bind_eq_some_iff.mp through
  obtain ⟨outside', markup⟩ := outside.step_sign data stepped
  cases t with
  | nil =>
    obtain rfl := Option.some.inj through
    simp [Scan.finish, markup] at finished
  | cons b t =>
    obtain ⟨rfl, later'⟩ := List.cons_prefix_cons.mp later
    rcases outside'.stays (.inr ⟨markup, start⟩) through with within | ⟨p, short, some, ends'⟩
    · exact within.finish finished
    · obtain ⟨s', closes, closed⟩ := ends'.closed
      have unlike : ascii '<' :: p ≠ ascii '<' :: b :: rest := by
        intro same
        obtain rfl := (List.cons.inj same).2
        exact proper (congrArg (ascii '<' :: ·) (later.eq_of_length_le short.length_le))
      refine absurd closed (ends.first _ ?_ (List.cons_ne_nil _ p) unlike s' ?_)
      · exact List.cons_prefix_cons.mpr ⟨rfl, short.trans later⟩
      · rw [Scan.run_cons, stepped, Option.bind_some, closes]

/-- The bytes go past the `<` of a start tag with no element before it. -/
def Started (bytes : List UInt8) : Prop :=
  ∃ before c rest s, bytes = before ++ ascii '<' :: c :: rest ∧ Prolog before s ∧
    c ∉ [ascii '/', ascii '!', ascii '?']

/-- No start tag so far; behind a `<` that may begin one, a prolog stands before it. -/
structure Unstarted (bytes : List UInt8) (s : Scan) : Prop where
  outside : s.Outside
  untagged : s.place.isTag = false
  sign : s.place = .markup → ∃ before s', bytes = before ++ [ascii '<'] ∧ Prolog before s'

theorem unstarted_or_started {bytes : List UInt8} {s : Scan} (ran : Scan.run {} bytes = some s) :
    Unstarted bytes s ∨ Started bytes := by
  -- from the end, so that each byte is met in the state behind all bytes before it
  induction bytes using List.reverseRec generalizing s with
  | nil =>
    obtain rfl := Option.some.inj ran
    exact .inl ⟨⟨by simp, rfl⟩, rfl, nofun⟩
  | append_singleton bytes b ih =>
    rw [Scan.run_append] at ran
    obtain ⟨last, before, through⟩ := Option.bind_eq_some_iff.mp ran
    rw [Scan.run_cons] at through
    obtain ⟨_, stepped, done⟩ := Option.bind_eq_some_iff.mp through
    obtain rfl := Option.some.inj done
    rcases ih before with ⟨outside, untagged, sign⟩ | ⟨pre, c, rest, first, rfl, prolog, start⟩
    · have starts : last.InTag b → Started (bytes ++ [b]) := by
        rintro (tagged | ⟨markup, start⟩)
        · simp [untagged] at tagged
        · obtain ⟨pre, first, rfl, prolog⟩ := sign markup
          exact ⟨pre, b, [], first, by simp, prolog, start⟩
      cases Scan.step_move stepped with
      | stay _ untagged' unmarked =>
        exact .inl ⟨⟨outside.unopened, outside.none⟩, untagged',
          fun markup => absurd markup unmarked⟩
      | text _ untagged' unmarked t =>
        exact .inl ⟨outside.addText t _, untagged', fun markup => absurd markup unmarked⟩
      | @markup events flushed piece data sign =>
        obtain ⟨outside', -⟩ := outside.step_sign data (sign ▸ stepped)
        exact .inl ⟨outside', rfl,
          fun _ => ⟨bytes, last, by rw [sign], before, outside, piece, data⟩⟩
      | tag inside => exact .inr (starts inside)
      | opens inside => exact .inr (starts inside)
      | whole inside => exact .inr (starts inside)
      | closes inner => simp [outside.none] at inner
    · exact .inr ⟨pre, c, rest ++ [b], first, by simp, prolog, start⟩

/-- Up to a sign at the start, bytes are taken apart as they are without it. -/
theorem exists_mark (bytes : List UInt8) : ∃ mark, bytes = mark ++ dropMark bytes ∧
    ∀ part, part <+: dropMark bytes → dropMark (mark ++ part) = part := by
  unfold dropMark
  split
  · exact ⟨[0xEF, 0xBB, 0xBF], rfl, fun part _ => rfl⟩
  · rename_i other
    refine ⟨[], rfl, fun part ⟨rest, whole⟩ => ?_⟩
    rw [List.nil_append]
    split
    · rename_i part _
      exact absurd whole.symm (other (part ++ rest))
    · rfl

/-- A document whose root has an end has the bytes of the root. -/
theorem exists_rootElement {bytes : List UInt8} {events : List Event}
    (scanned : events? bytes = some events) (opens : events.any Event.isOpening)
    (closes : dropElements 1 (afterRoot events) ≠ none) :
    ∃ before element after, bytes = before ++ element ++ after ∧ RootElement before element := by
  obtain ⟨last, ran, finished⟩ := Option.bind_eq_some_iff.mp scanned
  rcases unstarted_or_started ran with unstarted | ⟨before, c, rest, s, split, prolog, start⟩
  · simp [unstarted.outside.finish finished] at opens
  · rw [split, Scan.run_append, prolog.ran, Option.bind_some, Scan.run_cons] at ran
    obtain ⟨next, stepped, through⟩ := Option.bind_eq_some_iff.mp ran
    obtain ⟨piece, data⟩ := prolog.data
    obtain ⟨outside, markup⟩ := prolog.outside.step_sign data stepped
    have proper : ¬next.Closed := fun closed => by simp [closed.data] at markup
    rcases outside.stays (.inr ⟨markup, start⟩) through with within | ⟨part, front, filled, ends⟩
    · exact absurd (within.finish finished).2 closes
    · obtain ⟨mark, whole, unmarked⟩ := exists_mark bytes
      obtain ⟨inner, rfl, -⟩ := (List.prefix_cons_iff.mp front).resolve_left filled
      obtain ⟨after, rejoined⟩ := front
      refine ⟨mark ++ before, ascii '<' :: c :: inner, after, ?_, ⟨s, ?_, ends.cons stepped proper⟩,
        c, inner, rfl, start⟩
      · rw [whole, split, ← rejoined]
        simp
      · rwa [unmarked before ⟨_, split.symm⟩]

end ServiceClient.Markup
