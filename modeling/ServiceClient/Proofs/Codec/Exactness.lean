import Mathlib.Data.List.DropRight
import ServiceClient.Proofs.Codec.Readiness
import ServiceClient.Proofs.Markup.Nesting

/-! What decoders of XML services take from the events, exactly. No reading ever goes back, not even
where it fails. A decoder of a primitive or a structure takes one element, and one of a list or map
as many as follow each other. -/

namespace ServiceClient.Markup

theorem isBlank_of_mem_takeWhile {events : List Event} :
    ∀ e ∈ events.takeWhile Event.isBlank, e.isBlank :=
  List.all_eq_true.mp List.all_takeWhile

theorem skipBlank_skipBlank (events : List Event) :
    skipBlank (skipBlank events) = skipBlank events :=
  List.dropWhile_idempotent _ events

theorem skipBlank_suffix (events : List Event) : skipBlank events <:+ events :=
  List.dropWhile_suffix _

theorem dropElements_suffix {depth : Nat} {events left : List Event}
    (dropped : dropElements depth events = some left) : left <:+ events := by
  induction events generalizing depth with
  | nil => cases dropped
  | cons e events ih =>
    cases e with
    | opening name => exact (ih dropped).trans (List.suffix_cons _ _)
    | text s => exact (ih dropped).trans (List.suffix_cons _ _)
    | closing name =>
      rw [dropElements] at dropped
      split at dropped
      · cases dropped
        exact List.suffix_cons _ _
      · exact (ih dropped).trans (List.suffix_cons _ _)

/-- Pulling never goes back. -/
def Forward {α : Type} (f : List Event → Pulled α) : Prop :=
  ∀ events, (f events).2 <:+ events

theorem forward_peekStart : Forward peekStart := by
  intro events
  simp only [peekStart]
  split <;> exact skipBlank_suffix events

theorem forward_startElement (name : String) : Forward (startElement name) := by
  intro events
  simp only [startElement]
  split
  · rename_i found rest opens
    split
    · exact (opens ▸ List.suffix_cons _ _).trans (skipBlank_suffix events)
    · exact skipBlank_suffix events
  · exact skipBlank_suffix events

theorem forward_endElement (name : String) : Forward (endElement name) := by
  intro events
  simp only [endElement]
  split
  · exact List.nil_suffix
  · rename_i found rest closes
    split
    · exact (closes ▸ List.suffix_cons _ _).trans (skipBlank_suffix events)
    · exact skipBlank_suffix events
  · exact skipBlank_suffix events

theorem forward_characters : Forward characters := by
  intro events
  unfold characters
  split
  · exact List.suffix_cons _ _
  · exact List.suffix_rfl
  · exact List.suffix_rfl

theorem forward_skipElement : Forward skipElement := by
  intro events
  simp only [skipElement]
  split
  · rename_i name rest opens
    split
    · rename_i left dropped
      exact (dropElements_suffix dropped).trans
        ((opens ▸ List.suffix_cons _ _).trans (skipBlank_suffix events))
    · exact List.nil_suffix
  · exact skipBlank_suffix events

end ServiceClient.Markup

namespace ServiceClient.Codec
open ServiceClient.Markup ServiceClient.Schema ServiceClient.Wire

namespace Reading
variable {α β : Type} {x : Reading α} {f : α → Reading β} {tag : String}

/-- Whether the reading succeeds or fails, what is left are the last of the events. -/
def Advances (x : Reading α) : Prop :=
  ∀ ⦃events r left⦄, x.run events = some (r, left) → left <:+ events

theorem advances_pure (a : α) : Advances (pure a) := by
  rintro events r left ⟨⟩
  exact List.suffix_rfl

theorem advances_missing : Advances (missing : Reading α) := nofun

theorem advances_remaining : Advances remaining := by
  rintro events r left ⟨⟩
  exact List.suffix_rfl

theorem advances_pull {f : List Event → Pulled α} (forward : Forward f) : Advances (pull f) := by
  rintro events r left read
  have same : f events = (r, left) := Option.some.inj read
  have behind := forward events
  rwa [same] at behind

theorem advances_ofOutcome (r : Outcome α) : Advances (ofOutcome r) := by
  intro events result left read
  obtain ⟨_, -, same⟩ := Option.map_eq_some_iff.mp read
  cases same
  exact List.suffix_rfl

theorem advances_bind (first : Advances x) (later : ∀ a, Advances (f a)) : Advances (x >>= f) := by
  intro events r left read
  rw [run_bind] at read
  obtain ⟨⟨_ | a, rest⟩, before, after⟩ := Option.bind_eq_some_iff.mp read
  · cases after
    exact first before
  · exact (later a after).trans (first before)

theorem advances_within (inner : Advances x) : Advances (within tag x) :=
  advances_bind (advances_pull (forward_startElement tag)) fun _ => advances_bind inner fun _ =>
    advances_bind (advances_pull (forward_endElement tag)) fun _ => advances_pure _

theorem advances_gather {one : Reading α} (each : Advances one) (limit : Nat) :
    Advances (gather tag one limit) := by
  induction limit with
  | zero => exact advances_missing
  | succ limit ih =>
    refine advances_bind (advances_pull forward_peekStart) fun next => ?_
    split
    · exact advances_bind each fun _ => advances_bind ih fun _ => advances_pure _
    · exact advances_pure _

theorem advances_children {child : String → α → Reading α}
    (each : ∀ name state, Advances (child name state)) (limit : Nat) (state : α) :
    Advances (children child limit state) := by
  induction limit generalizing state with
  | zero => exact advances_missing
  | succ limit ih =>
    refine advances_bind (advances_pull forward_peekStart) fun next => ?_
    cases next with
    | none => exact advances_pure _
    | some name => exact advances_bind (each name state) ih

theorem advances_turns : Advances turns :=
  advances_bind advances_remaining fun _ => advances_pure _

theorem advances_gatherAll {one : Reading α} (each : Advances one) : Advances (gatherAll tag one) :=
  advances_bind advances_turns (advances_gather each)

theorem advances_allChildren {child : String → α → Reading α}
    (each : ∀ name state, Advances (child name state)) (state : α) :
    Advances (allChildren child state) :=
  advances_bind advances_turns fun limit => advances_children each limit state

theorem advances_scalar (kind : PrimitiveKind) (tag : String) : Advances (scalar kind tag) :=
  advances_within (advances_bind (advances_pull forward_characters) fun _ => advances_ofOutcome _)

end Reading

namespace Module
open Reading
variable {m : Module} {headers : Headers}

theorem advances_readChild {decode : String → String → Reading Value}
    (each : ∀ type tag, Advances (decode type tag)) (wire : String) (slots : Slots) :
    Advances (readChild decode wire slots) := by
  unfold readChild
  split
  · exact advances_bind (advances_pull forward_skipElement) fun _ => advances_pure _
  · dsimp only
    split
    · exact advances_bind (advances_within (each _ _)) fun _ => advances_pure _
    · exact advances_bind (each _ _) fun _ => advances_pure _

theorem advances_pair {read : Reading Scalar} {decode : Reading Value} (first : Advances read)
    (second : Advances decode) : Advances (do
      let k ← read
      let v ← decode
      pure (k, v)) :=
  advances_bind first fun _ => advances_bind second fun _ => advances_pure _

theorem advances_readXml (depth : Nat) (type tag : String) :
    Advances (m.readXml headers depth type tag) := by
  induction depth generalizing type tag with
  | zero => exact advances_missing
  | succ depth ih =>
    unfold readXml
    split
    · exact advances_missing
    · exact advances_bind (advances_scalar _ tag) fun _ => advances_pure _
    · exact advances_bind (advances_gatherAll (ih _ tag)) fun _ => advances_pure _
    · split
      · exact advances_missing
      · exact advances_bind (advances_gatherAll (advances_within
          (advances_pair (advances_scalar _ _) (ih _ _)))) fun _ => advances_pure _
    · exact advances_bind (advances_within (advances_allChildren (advances_readChild ih) _))
        fun _ => advances_ofOutcome _

end Module

namespace Reading
variable {α β : Type} {x : Reading α} {f : α → Reading β} {tag : String}

/-- On success, one element has been taken. -/
def TakesElement (tag : String) (x : Reading α) : Prop :=
  ∀ ⦃events a left⦄, Yields x events a left → ∃ used, events = used ++ left ∧ IsElement tag used

/-- On success, all elements of that name have been taken which follow each other. -/
def TakesRun (tag : String) (x : Reading α) : Prop :=
  ∀ ⦃events a left⦄, Yields x events a left → ∃ used, events = used ++ left ∧ IsRun tag used ∧
    (skipBlank left).head? ≠ some (.opening tag)

/-- On success, no event has been taken or looked at. -/
def Stays (x : Reading α) : Prop :=
  ∀ ⦃events a left⦄, Yields x events a left → left = events ∧ ∀ others, Yields x others a others

theorem stays_pure (a : α) : Stays (pure a) := by
  intro events b left yields
  obtain ⟨rfl, rfl⟩ := yields_pure.mp yields
  exact ⟨rfl, fun others => yields_pure.mpr ⟨rfl, rfl⟩⟩

theorem stays_ofOutcome (r : Outcome α) : Stays (ofOutcome r) := by
  intro events a left yields
  obtain ⟨settled, rfl⟩ := yields_ofOutcome.mp yields
  exact ⟨rfl, fun others => yields_ofOutcome.mpr ⟨settled, rfl⟩⟩

theorem TakesElement.bind (first : TakesElement tag x) (later : ∀ a, Stays (f a)) :
    TakesElement tag (x >>= f) := by
  intro events b left yields
  obtain ⟨a, rest, read, read'⟩ := yields_bind.mp yields
  obtain rfl := (later a read').1
  exact first read

theorem TakesRun.bind (first : TakesRun tag x) (later : ∀ a, Stays (f a)) :
    TakesRun tag (x >>= f) := by
  intro events b left yields
  obtain ⟨a, rest, read, read'⟩ := yields_bind.mp yields
  obtain rfl := (later a read').1
  exact first read

theorem takesElement_within (inner : Consumes x) : TakesElement tag (within tag x) := by
  intro events a left yields
  obtain ⟨body, rest, opens, read, closes⟩ := yields_within.mp yields
  obtain ⟨used, rfl, balanced⟩ := inner read
  have blank : Balanced (rest.takeWhile Event.isBlank) := .takeWhile_isBlank rest
  refine ⟨events.takeWhile Event.isBlank ++
    Event.opening tag :: (used ++ rest.takeWhile Event.isBlank) ++ [Event.closing tag], ?_,
    _, _, rfl, isBlank_of_mem_takeWhile, balanced_iff_nested.mp (balanced.append blank)⟩
  calc events = events.takeWhile Event.isBlank ++ skipBlank events :=
        List.takeWhile_append_dropWhile.symm
    _ = events.takeWhile Event.isBlank ++
          Event.opening tag :: (used ++ (rest.takeWhile Event.isBlank ++ skipBlank rest)) := by
        rw [opens, skipBlank, List.takeWhile_append_dropWhile]
    _ = _ := by rw [closes]; simp

theorem takesElement_scalar (kind : PrimitiveKind) (tag : String) :
    TakesElement tag (scalar kind tag) :=
  takesElement_within (consumes_bind consumes_characters fun _ => consumes_ofOutcome _)

/-- Peeking moves to the next element, or to the closing tag or the end that is there instead. -/
theorem peekStart_eq_ok {events rest : List Event} {next : Option String}
    (peeked : peekStart events = (.ok next, rest)) :
    rest = skipBlank events ∧ ∀ name, next = some name ↔ rest.head? = some (.opening name) := by
  simp only [peekStart] at peeked
  split at peeked
  · rename_i found left opens
    obtain ⟨⟨⟩, rfl⟩ := Prod.mk.inj peeked
    simp [opens]
  · cases peeked
  · rename_i other _
    obtain ⟨⟨⟩, rfl⟩ := Prod.mk.inj peeked
    refine ⟨rfl, fun name => iff_of_false (Option.some_ne_none name).symm fun opens => ?_⟩
    obtain ⟨left, opens⟩ := List.head?_eq_some_iff.mp opens
    exact other name left opens

theorem takesRun_gather {one : Reading α} (each : TakesElement tag one) (limit : Nat) :
    TakesRun tag (gather tag one limit) := by
  induction limit with
  | zero => exact fun _ _ _ yields => absurd yields not_yields_missing
  | succ limit ih =>
    intro events xs left yields
    obtain ⟨next, rest, peeked, yields⟩ := yields_bind.mp yields
    obtain ⟨rfl, head⟩ := peekStart_eq_ok (yields_pull.mp peeked)
    have whole : events = events.takeWhile Event.isBlank ++ skipBlank events :=
      List.takeWhile_append_dropWhile.symm
    split at yields
    · obtain ⟨x, rest, read, yields⟩ := yields_bind.mp yields
      obtain ⟨xs, rest', read', yields⟩ := yields_bind.mp yields
      obtain ⟨-, rfl⟩ := yields_pure.mp yields
      obtain ⟨used, took, element⟩ := each read
      obtain ⟨used', rfl, run, ends⟩ := ih read'
      refine ⟨events.takeWhile Event.isBlank ++ used ++ used', ?_,
        run.cons (element.behind isBlank_of_mem_takeWhile), ends⟩
      rw [took] at whole
      simpa using whole
    · rename_i other
      obtain ⟨-, rfl⟩ := yields_pure.mp yields
      refine ⟨_, whole, .blank isBlank_of_mem_takeWhile, ?_⟩
      rw [skipBlank_skipBlank]
      exact fun opens => other ((head tag).mpr opens)

theorem takesRun_gatherAll {one : Reading α} (each : TakesElement tag one) :
    TakesRun tag (gatherAll tag one) := by
  intro events xs left yields
  obtain ⟨limit, rest, read, yields⟩ := yields_bind.mp yields
  obtain ⟨rfl, rfl⟩ := yields_turns read
  exact takesRun_gather each _ yields

end Reading

/-- What a decoder takes when it succeeds: one element, or for lists and maps a run of them that
goes on as far as it can. -/
def DecoderBody.Takes (tag : String) (used left : List Event) :
    DecoderBody → Prop
  | .scalar _ | .struct _ _ => IsElement tag used
  | .list _ | .map _ _ _ _ => IsRun tag used ∧ (skipBlank left).head? ≠ some (.opening tag)

namespace Module
open Reading
variable {m : Module} {headers : Headers} {type : String}

/-- Not a list or a map. -/
def isSingle (m : Module) (type : String) : Bool :=
  match m.decoderBody? type with
  | some (.scalar _) | some (.struct _ _) => true
  | _ => false

theorem takesElement_readXml (single : m.isSingle type) (depth : Nat) (tag : String) :
    TakesElement tag (m.readXml headers depth type tag) := by
  cases depth with
  | zero => exact fun _ _ _ yields => absurd yields not_yields_missing
  | succ depth =>
    unfold isSingle at single
    unfold readXml
    split at single
    · rename_i kind body
      rw [body]
      exact (takesElement_scalar kind tag).bind fun _ => stays_pure _
    · rename_i shape fields body
      rw [body]
      exact (takesElement_within (consumes_allChildren
        (consumes_readChild (consumes_readXml depth)) _)).bind fun _ => stays_ofOutcome _
    · cases single

theorem takesRun_readXml_list {element : String}
    (body : m.decoderBody? type = some (.list element)) (single : m.isSingle element) (depth : Nat)
    (tag : String) : TakesRun tag (m.readXml headers depth type tag) := by
  cases depth with
  | zero => exact fun _ _ _ yields => absurd yields not_yields_missing
  | succ depth =>
    rw [readXml, body]
    exact (takesRun_gatherAll (takesElement_readXml single depth tag)).bind fun _ => stays_pure _

theorem takesRun_readXml_map {key value keyWire valueWire : String}
    (body : m.decoderBody? type = some (.map key value keyWire valueWire)) (depth : Nat)
    (tag : String) : TakesRun tag (m.readXml headers depth type tag) := by
  cases depth with
  | zero => exact fun _ _ _ yields => absurd yields not_yields_missing
  | succ depth =>
    rw [readXml, body]
    dsimp only
    split
    · exact fun _ _ _ yields => absurd yields not_yields_missing
    · exact (takesRun_gatherAll (takesElement_within consumes_entry)).bind fun _ => stays_pure _

/-- Lists of lists are left out: they take one run, where every list in it would take it all. -/
def isFlat (m : Module) : DecoderBody → Bool
  | .list element => m.isSingle element
  | _ => true

theorem takes_readXml {body : DecoderBody} (found : m.decoderBody? type = some body)
    (flat : m.isFlat body) {depth : Nat} {tag : String} {events left : List Event} {v : Value}
    (yields : Yields (m.readXml headers depth type tag) events v left) :
    ∃ used, events = used ++ left ∧ body.Takes tag used left := by
  cases body with
  | scalar kind => exact takesElement_readXml (by rw [isSingle, found]) depth tag yields
  | struct shape fields => exact takesElement_readXml (by rw [isSingle, found]) depth tag yields
  | list element => exact takesRun_readXml_list found flat depth tag yields
  | map key value keyWire valueWire => exact takesRun_readXml_map found depth tag yields

/-- Decoding settles on any events, never goes back, and takes exactly what is its own. -/
theorem decodeXml_exact {body : DecoderBody} (found : m.decoderBody? type = some body)
    (flat : m.isFlat body) (ready : m.ready (m.shapes.length + 1) type) (headers : Headers)
    (tag : String) (events : List Event) :
    ∃ result used left, (m.decodeXml headers type tag).run events = some (result, left) ∧
      events = used ++ left ∧ ∀ v, result = .ok v → body.Takes tag used left := by
  rw [decodeXml_run]
  have total : Total (m.readXml headers (m.callDepth events) type tag) :=
    total_readXml ready (m.callDepth_deep events) tag
  obtain ⟨⟨result, left⟩, settled⟩ := Option.ne_none_iff_exists'.mp (total events)
  cases result with
  | error e =>
    obtain ⟨used, rfl⟩ := advances_readXml _ type tag settled
    exact ⟨_, used, left, settled, rfl, nofun⟩
  | ok v =>
    obtain ⟨used, rfl, takes⟩ := takes_readXml found flat settled
    exact ⟨_, used, left, settled, rfl, fun _ _ => takes⟩

end Module
end ServiceClient.Codec
