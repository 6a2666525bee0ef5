import ServiceClient.Proofs.Codec.Reading
import ServiceClient.Proofs.Markup.Depth

/-! What decoders of XML services take from the events. Whatever they succeed on, it is balanced: no
element that was open is closed, and none is left open. A decoder that reads an element of its own
thus succeeds only where that element has an end. -/

namespace ServiceClient.Codec
open ServiceClient.Markup ServiceClient.Schema ServiceClient.Wire

namespace Reading

variable {α β : Type}

/-- On success, balanced events have been taken from the front. -/
def Consumes (x : Reading α) : Prop :=
  ∀ ⦃events a left⦄, Yields x events a left → ∃ used, events = used ++ left ∧ Balanced used

theorem exists_skipBlank (events : List Event) : ∃ blank,
    events = blank ++ skipBlank events ∧ Balanced blank ∧ ∀ e ∈ blank, e.isOpening = false := by
  refine ⟨events.takeWhile Event.isBlank, List.takeWhile_append_dropWhile.symm,
    .takeWhile_isBlank events, fun e mem => ?_⟩
  have blank := List.all_eq_true.mp List.all_takeWhile e mem
  cases e with
  | text | closing => rfl
  | opening => cases blank

section Parts
variable {x : Reading α} {f : α → Reading β} {tag : String}

theorem consumes_pure (a : α) : Consumes (pure a) := by
  intro events b left yields
  obtain ⟨-, rfl⟩ := yields_pure.mp yields
  exact ⟨[], rfl, .nil⟩

theorem consumes_bind (first : Consumes x) (later : ∀ a, Consumes (f a)) : Consumes (x >>= f) := by
  intro events b left yields
  obtain ⟨a, rest, read, read'⟩ := yields_bind.mp yields
  obtain ⟨used, rfl, balanced⟩ := first read
  obtain ⟨used', rfl, balanced'⟩ := later a read'
  exact ⟨used ++ used', by simp, balanced.append balanced'⟩

theorem consumes_remaining : Consumes remaining := by
  intro events rest left yields
  obtain ⟨-, rfl⟩ := yields_remaining.mp yields
  exact ⟨[], rfl, .nil⟩

theorem consumes_ofOutcome (r : Outcome α) : Consumes (ofOutcome r) := by
  intro events a left yields
  obtain ⟨-, rfl⟩ := yields_ofOutcome.mp yields
  exact ⟨[], rfl, .nil⟩

theorem consumes_missing : Consumes (missing : Reading α) :=
  fun _ _ _ yields => absurd yields not_yields_missing

theorem consumes_peekStart : Consumes (pull peekStart) := by
  intro events next left yields
  obtain ⟨blank, whole, balanced, -⟩ := exists_skipBlank events
  have skipped : (peekStart events).2 = skipBlank events := by
    simp only [peekStart]
    split <;> rfl
  rw [yields_pull.mp yields] at skipped
  rw [← skipped] at whole
  exact ⟨blank, whole, balanced⟩

theorem consumes_characters : Consumes (pull characters) := by
  intro events s left yields
  have read := yields_pull.mp yields
  unfold characters at read
  split at read
  · obtain ⟨-, rfl⟩ := Prod.mk.inj read
    exact ⟨[_], rfl, .text _⟩
  · obtain ⟨-, rfl⟩ := Prod.mk.inj read
    exact ⟨[], rfl, .nil⟩
  · cases read

theorem skipElement_eq_ok {events left : List Event}
    (skipped : skipElement events = (.ok (), left)) :
    ∃ name body, skipBlank events = .opening name :: body ∧ dropElements 1 body = some left := by
  simp only [skipElement] at skipped
  split at skipped
  · rename_i name body opens
    split at skipped
    · rename_i rest dropped
      obtain ⟨-, rfl⟩ := Prod.mk.inj skipped
      exact ⟨name, body, opens, dropped⟩
    · cases skipped
  · cases skipped

theorem consumes_skipElement : Consumes (pull skipElement) := by
  intro events u left yields
  obtain ⟨name, body, opens, dropped⟩ := skipElement_eq_ok (yields_pull.mp yields)
  obtain ⟨inner, rfl, balanced⟩ := Balanced.of_dropElements name dropped
  obtain ⟨blank, whole, blanks, -⟩ := exists_skipBlank events
  refine ⟨blank ++ .opening name :: inner, ?_, blanks.append balanced⟩
  rw [whole, opens]
  simp

/-- A reading within an element of its own goes on behind the end of the element. -/
theorem Yields.dropElements_eq {events left : List Event} {a : α} (inner : Consumes x)
    (yields : Yields (within tag x) events a left) :
    dropElements 1 (afterRoot events) = some left := by
  obtain ⟨body, rest, opens, read, closes⟩ := yields_within.mp yields
  obtain ⟨used, rfl, balanced⟩ := inner read
  obtain ⟨blank, whole, -, unopened⟩ := exists_skipBlank events
  obtain ⟨blank', whole', blanks', -⟩ := exists_skipBlank rest
  rw [whole, opens, afterRoot_append unopened, balanced, whole', closes, blanks']
  rfl

theorem consumes_within (inner : Consumes x) : Consumes (within tag x) := by
  intro events a left yields
  obtain ⟨body, rest, opens, read, closes⟩ := yields_within.mp yields
  obtain ⟨used, rfl, balanced⟩ := inner read
  obtain ⟨blank, whole, blanks, -⟩ := exists_skipBlank events
  obtain ⟨blank', whole', blanks', -⟩ := exists_skipBlank rest
  refine ⟨blank ++ (Event.opening tag :: (used ++ blank') ++ [Event.closing tag]), ?_,
    blanks.append ((balanced.append blanks').element tag tag)⟩
  rw [whole, opens, whole', closes]
  simp

end Parts

section Loops
variable {tag : String} {one : Reading α} {child : String → α → Reading α}

theorem consumes_gather (each : Consumes one) (limit : Nat) : Consumes (gather tag one limit) := by
  induction limit with
  | zero => exact consumes_missing
  | succ limit ih =>
    refine consumes_bind consumes_peekStart fun next => ?_
    split
    · exact consumes_bind each fun x => consumes_bind ih fun xs => consumes_pure _
    · exact consumes_pure _

theorem consumes_children (each : ∀ name state, Consumes (child name state)) (limit : Nat)
    (state : α) : Consumes (children child limit state) := by
  induction limit generalizing state with
  | zero => exact consumes_missing
  | succ limit ih =>
    refine consumes_bind consumes_peekStart fun next => ?_
    cases next with
    | none => exact consumes_pure _
    | some name => exact consumes_bind (each name state) ih

theorem consumes_turns : Consumes turns :=
  consumes_bind consumes_remaining fun _ => consumes_pure _

theorem consumes_gatherAll (each : Consumes one) : Consumes (gatherAll tag one) :=
  consumes_bind consumes_turns (consumes_gather each)

theorem consumes_allChildren (each : ∀ name state, Consumes (child name state)) (state : α) :
    Consumes (allChildren child state) :=
  consumes_bind consumes_turns fun limit => consumes_children each limit state

theorem consumes_scalar (kind : PrimitiveKind) (tag : String) : Consumes (scalar kind tag) :=
  consumes_within (consumes_bind consumes_characters fun _ => consumes_ofOutcome _)

end Loops
end Reading

namespace Module
open Reading

variable {m : Module} {headers : Headers}

theorem consumes_readChild {decode : String → String → Reading Value}
    (each : ∀ type tag, Consumes (decode type tag)) (wire : String) (slots : Slots) :
    Consumes (readChild decode wire slots) := by
  unfold readChild
  split
  · exact consumes_bind consumes_skipElement fun _ => consumes_pure _
  · dsimp only
    split
    · exact consumes_bind (consumes_within (each _ _)) fun v => consumes_pure _
    · exact consumes_bind (each _ _) fun v => consumes_pure _

theorem consumes_pair {read : Reading Scalar} {decode : Reading Value} (first : Consumes read)
    (second : Consumes decode) : Consumes (do
      let k ← read
      let v ← decode
      pure (k, v)) :=
  consumes_bind first fun _ => consumes_bind second fun _ => consumes_pure _

theorem consumes_readXml (depth : Nat) (type tag : String) :
    Consumes (m.readXml headers depth type tag) := by
  induction depth generalizing type tag with
  | zero => exact consumes_missing
  | succ depth ih =>
    unfold readXml
    split
    · exact consumes_missing
    · exact consumes_bind (consumes_scalar _ tag) fun _ => consumes_pure _
    · exact consumes_bind (consumes_gatherAll (ih _ tag)) fun _ => consumes_pure _
    · split
      · exact consumes_missing
      · exact consumes_bind (consumes_gatherAll (consumes_within
          (consumes_pair (consumes_scalar _ _) (ih _ _)))) fun _ => consumes_pure _
    · exact consumes_bind (consumes_within (consumes_allChildren (consumes_readChild ih) _))
        fun slots => consumes_ofOutcome _

theorem consumes_entry {depth : Nat} {kind : PrimitiveKind} {value keyWire valueWire : String} :
    Consumes (do
      let k ← scalar kind keyWire
      let v ← m.readXml headers depth value valueWire
      pure (k, v)) :=
  consumes_pair (consumes_scalar _ _) (consumes_readXml _ _ _)

end Module
end ServiceClient.Codec
