import ServiceClient.Proofs.Codec.Bounds
import ServiceClient.Proofs.Codec.Exactness

/-! What decoders see of the events behind those they take. Whether a loop goes on is told by the
next event, and nothing further on is ever looked at; an element of its own ends before that. -/

namespace ServiceClient.Markup

/-- Blank text is passed over up to an event of those that are taken or the first behind them. -/
theorem skipBlank_append (mid : List Event) {used rest rest' : List Event}
    (skipped : skipBlank (used ++ rest) = mid ++ rest)
    (same : (mid ++ rest).head? = (mid ++ rest').head?) :
    skipBlank (used ++ rest') = mid ++ rest' := by
  obtain ⟨blank, rfl, blanks⟩ : ∃ blank, used = blank ++ mid ∧ ∀ e ∈ blank, e.isBlank := by
    refine ⟨(used ++ rest).takeWhile Event.isBlank, ?_, isBlank_of_mem_takeWhile⟩
    rw [← List.append_left_inj rest, List.append_assoc, ← skipped, skipBlank,
      List.takeWhile_append_dropWhile]
  have still : skipBlank (mid ++ rest) = mid ++ rest := by
    rw [← skipped, skipBlank_skipBlank]
  rw [List.append_assoc, skipBlank, List.dropWhile_append_of_pos blanks]
  generalize mid ++ rest = front at same still
  cases front with
  | nil =>
    rw [List.head?_eq_none_iff.mp same.symm]
    rfl
  | cons e front =>
    obtain ⟨others, opens⟩ := List.head?_eq_some_iff.mp same.symm
    have solid : e.isBlank = false := by
      by_contra blank
      have shorter := (List.dropWhile_suffix Event.isBlank (l := front)).length_le
      rw [skipBlank, List.dropWhile_cons_of_pos (by simpa using blank)] at still
      rw [still, List.length_cons] at shorter
      omega
    rw [opens, List.dropWhile_cons_of_neg (by simp [solid])]

theorem length_lt_of_dropElements {depth : Nat} {events left : List Event}
    (dropped : dropElements depth events = some left) : left.length < events.length := by
  induction events generalizing depth with
  | nil => cases dropped
  | cons e events ih =>
    rw [List.length_cons]
    cases e with
    | opening name => exact Nat.lt_succ_of_lt (ih dropped)
    | text s => exact Nat.lt_succ_of_lt (ih dropped)
    | closing name =>
      rw [dropElements] at dropped
      split at dropped
      · cases dropped
        exact Nat.lt_succ_self _
      · exact Nat.lt_succ_of_lt (ih dropped)

theorem dropElements_detached {depth : Nat} {used rest : List Event}
    (dropped : dropElements depth (used ++ rest) = some rest) (rest' : List Event) :
    dropElements depth (used ++ rest') = some rest' := by
  induction used generalizing depth with
  | nil => exact absurd (length_lt_of_dropElements dropped) (Nat.lt_irrefl _)
  | cons e used ih =>
    cases e with
    | opening name => exact ih dropped
    | text s => exact ih dropped
    | closing name =>
      rw [List.cons_append, dropElements] at dropped ⊢
      split at dropped
      · rename_i last
        rw [if_pos last]
        obtain rfl : used = [] := List.append_left_eq_self.mp (Option.some.inj dropped)
        rfl
      · rename_i inside
        rw [if_neg inside]
        exact ih dropped

end ServiceClient.Markup

namespace ServiceClient.Codec
open ServiceClient.Markup ServiceClient.Schema ServiceClient.Wire

namespace Reading
variable {α β : Type} {x : Reading α} {f : α → Reading β} {tag : String}

/-- On success, all that counts of the events behind those taken is the first one. -/
def Local (x : Reading α) : Prop :=
  ∀ ⦃used rest rest' a⦄, Yields x (used ++ rest) a rest → rest.head? = rest'.head? →
    Yields x (used ++ rest') a rest'

/-- On success, none of the events behind those taken counts. -/
def Detached (x : Reading α) : Prop :=
  ∀ ⦃used rest a⦄, Yields x (used ++ rest) a rest → ∀ rest', Yields x (used ++ rest') a rest'

theorem Detached.local (detached : Detached x) : Local x :=
  fun _ _ rest' _ yields _ => detached yields rest'

theorem Stays.local (stays : Stays x) : Local x := by
  intro used rest rest' a yields _
  obtain ⟨nothing, everywhere⟩ := stays yields
  obtain rfl : used = [] := List.append_left_eq_self.mp nothing.symm
  exact everywhere rest'

theorem local_missing : Local (missing : Reading α) :=
  fun _ _ _ _ yields _ => absurd yields not_yields_missing

/-- The second reading takes what the first one leaves of the events that both take. -/
theorem split_bind (first : Advances x) (later : ∀ a, Advances (f a)) {used rest : List Event}
    {b : β} (yields : Yields (x >>= f) (used ++ rest) b rest) :
    ∃ a used₁ used₂, used = used₁ ++ used₂ ∧
      Yields x (used₁ ++ (used₂ ++ rest)) a (used₂ ++ rest) ∧
        Yields (f a) (used₂ ++ rest) b rest := by
  obtain ⟨a, mid, read, read'⟩ := yields_bind.mp yields
  obtain ⟨used₂, rfl⟩ := later a read'
  obtain ⟨used₁, whole⟩ := first read
  obtain rfl : used₁ ++ used₂ = used := by
    rwa [← List.append_assoc, List.append_left_inj] at whole
  rw [List.append_assoc] at read
  exact ⟨a, used₁, used₂, rfl, read, read'⟩

theorem Local.bind (first : Local x) (later : ∀ a, Local (f a)) (advances : Advances x)
    (advances' : ∀ a, Advances (f a)) : Local (x >>= f) := by
  intro used rest rest' b yields same
  obtain ⟨a, used₁, used₂, rfl, read, read'⟩ := split_bind advances advances' yields
  have next : (used₂ ++ rest).head? = (used₂ ++ rest').head? := by
    rw [List.head?_append, List.head?_append, same]
  rw [List.append_assoc]
  exact yields_bind.mpr ⟨a, used₂ ++ rest', first read next, later a read' same⟩

theorem Local.andThen (first : Local x) (later : ∀ a, Stays (f a)) : Local (x >>= f) := by
  intro used rest rest' b yields same
  obtain ⟨a, mid, read, read'⟩ := yields_bind.mp yields
  obtain ⟨rfl, everywhere⟩ := later a read'
  exact yields_bind.mpr ⟨a, rest', first read same, everywhere rest'⟩

theorem Detached.andThen (first : Detached x) (later : ∀ a, Stays (f a)) : Detached (x >>= f) := by
  intro used rest b yields rest'
  obtain ⟨a, mid, read, read'⟩ := yields_bind.mp yields
  obtain ⟨rfl, everywhere⟩ := later a read'
  exact yields_bind.mpr ⟨a, rest', first read rest', everywhere rest'⟩

theorem local_peekStart : Local (pull peekStart) := by
  intro used rest rest' next yields same
  obtain ⟨stops, -⟩ := peekStart_eq_ok (yields_pull.mp yields)
  have stops' := skipBlank_append [] stops.symm same
  refine yields_pull.mpr ?_
  have peeked := yields_pull.mp yields
  simp only [peekStart, ← stops, stops', List.nil_append] at peeked ⊢
  cases rest with
  | nil =>
    rw [List.head?_eq_none_iff.mp same.symm]
    exact peeked
  | cons e rest =>
    obtain ⟨others, rfl⟩ := List.head?_eq_some_iff.mp same.symm
    cases e with
    | opening name => simpa using peeked
    | closing name => simpa using peeked
    | text s => cases peeked

theorem local_characters : Local (pull characters) := by
  intro used rest rest' s yields same
  have read := yields_pull.mp yields
  refine yields_pull.mpr ?_
  unfold characters at read
  split at read
  · rename_i others events
    obtain ⟨⟨⟩, rfl⟩ := Prod.mk.inj read
    obtain rfl : used = [.text s] := (List.append_left_inj others).mp events
    rfl
  · rename_i name others events
    obtain ⟨⟨⟩, rfl⟩ := Prod.mk.inj read
    obtain rfl : used = [] := List.append_left_eq_self.mp events
    obtain ⟨others', rfl⟩ := List.head?_eq_some_iff.mp same.symm
    rfl
  · cases read

theorem detached_skipElement : Detached (pull skipElement) := by
  intro used rest u yields rest'
  obtain ⟨name, body, opens, dropped⟩ := skipElement_eq_ok (yields_pull.mp yields)
  obtain ⟨inner, rfl⟩ := dropElements_suffix dropped
  have opens' : skipBlank (used ++ rest') = .opening name :: (inner ++ rest') :=
    skipBlank_append (.opening name :: inner) opens rfl
  refine yields_pull.mpr ?_
  rw [skipElement]
  simp only [opens', dropElements_detached dropped rest']

/-- An element of its own tells where it ends. -/
theorem detached_within (inner : Local x) (advances : Advances x) : Detached (within tag x) := by
  intro used rest a yields rest'
  obtain ⟨body, mid, opens, read, closes⟩ := yields_within.mp yields
  obtain ⟨blank, ends, -⟩ := exists_skipBlank mid
  rw [closes] at ends
  obtain ⟨used', rfl⟩ := advances read
  obtain rfl : mid = (blank ++ [Event.closing tag]) ++ rest := by simpa using ends
  refine yields_within.mpr ⟨used' ++ ((blank ++ [Event.closing tag]) ++ rest'),
    (blank ++ [Event.closing tag]) ++ rest', ?_, inner read ?_, ?_⟩
  · have whole : skipBlank (used ++ rest) =
        Event.opening tag :: (used' ++ (blank ++ [Event.closing tag])) ++ rest := by
      simpa using opens
    have whole' : skipBlank (used ++ rest') =
        Event.opening tag :: (used' ++ (blank ++ [Event.closing tag])) ++ rest' :=
      skipBlank_append _ whole rfl
    simpa using whole'
  · simp
  · exact skipBlank_append [.closing tag] closes rfl

section Loops
variable {one : Reading α} {child : String → α → Reading α}

theorem local_gatherAll (each : Local one) (advances : Advances one)
    (progress : Progresses tag one) : Local (gatherAll tag one) := by
  have bounded : ∀ limit, Local (gather tag one limit) := by
    intro limit
    induction limit with
    | zero => exact local_missing
    | succ limit ih =>
      refine local_peekStart.bind (fun next => ?_) (advances_pull forward_peekStart) fun next => ?_
      · split
        · exact each.bind (fun _ => ih.andThen fun _ => stays_pure _) advances fun _ =>
            advances_bind (advances_gather advances limit) fun _ => advances_pure _
        · exact (stays_pure _).local
      · split
        · exact advances_bind advances fun _ => advances_bind (advances_gather advances limit)
            fun _ => advances_pure _
        · exact advances_pure _
  intro used rest rest' xs yields same
  obtain ⟨limit, yields⟩ := (yields_gatherAll_iff_gather progress).mp yields
  exact (yields_gatherAll_iff_gather progress).mpr ⟨limit, bounded limit yields same⟩

theorem local_allChildren (each : ∀ name state, Local (child name state))
    (advances : ∀ name state, Advances (child name state))
    (progress : ∀ name state, Progresses name (child name state)) (state : α) :
    Local (allChildren child state) := by
  have bounded : ∀ limit state, Local (children child limit state) := by
    intro limit
    induction limit with
    | zero => exact fun _ => local_missing
    | succ limit ih =>
      refine fun state => local_peekStart.bind (fun next => ?_) (advances_pull forward_peekStart)
        fun next => ?_
      · cases next with
        | none => exact (stays_pure _).local
        | some name =>
          exact (each name state).bind ih (advances name state) (advances_children advances limit)
      · cases next with
        | none => exact advances_pure _
        | some name => exact advances_bind (advances name state) (advances_children advances limit)
  intro used rest rest' a yields same
  obtain ⟨limit, yields⟩ := (yields_allChildren_iff_children progress).mp yields
  exact (yields_allChildren_iff_children progress).mpr ⟨limit, bounded limit state yields same⟩

theorem detached_scalar (kind : PrimitiveKind) (tag : String) : Detached (scalar kind tag) :=
  detached_within
    (local_characters.andThen fun _ => stays_ofOutcome _)
    (advances_bind (advances_pull forward_characters) fun _ => advances_ofOutcome _)

end Loops
end Reading

namespace Module
open Reading
variable {m : Module} {headers : Headers}

theorem local_readChild {decode : String → String → Reading Value}
    (each : ∀ type tag, Local (decode type tag)) (advances : ∀ type tag, Advances (decode type tag))
    (wire : String) (slots : Slots) : Local (readChild decode wire slots) := by
  unfold readChild
  split
  · exact detached_skipElement.local.andThen fun _ => stays_pure _
  · dsimp only
    split
    · exact (detached_within (each _ _) (advances _ _)).local.andThen fun _ => stays_pure _
    · exact (each _ _).andThen fun _ => stays_pure _

section Bodies
variable {depth : Nat} (each : ∀ type tag, Local (m.readXml headers depth type tag))
include each

theorem detached_entry (kind : PrimitiveKind) (value keyWire valueWire tag : String) :
    Detached (within tag do
      let k ← scalar kind keyWire
      let v ← m.readXml headers depth value valueWire
      pure (k, v)) := by
  refine detached_within ?_ (advances_pair (advances_scalar _ _) (advances_readXml _ _ _))
  exact (detached_scalar kind keyWire).local.bind
    (fun _ => (each value valueWire).andThen fun _ => stays_pure _) (advances_scalar _ _)
    fun _ => advances_bind (advances_readXml _ _ _) fun _ => advances_pure _

theorem detached_fields (fields : List FieldRead) (tag : String) :
    Detached (within tag
      (allChildren (readChild (m.readXml headers depth)) (Slots.start fields))) := by
  have advances : ∀ name slots, Advances (readChild (m.readXml headers depth) name slots) :=
    advances_readChild (advances_readXml depth)
  refine detached_within ?_ (advances_allChildren advances _)
  exact local_allChildren (local_readChild each (advances_readXml depth)) advances
    (fun _ _ => progresses_readChild (consumes_readXml depth) (progresses_readXml depth)) _

end Bodies

theorem local_readXml (depth : Nat) (type tag : String) :
    Local (m.readXml headers depth type tag) := by
  induction depth generalizing type tag with
  | zero => exact local_missing
  | succ depth ih =>
    unfold readXml
    split
    · exact local_missing
    · exact (detached_scalar _ tag).local.andThen fun _ => stays_pure _
    · exact (local_gatherAll (ih _ tag) (advances_readXml depth _ tag)
        (progresses_readXml depth _ tag)).andThen fun _ => stays_pure _
    · split
      · exact local_missing
      · exact (local_gatherAll (detached_entry ih _ _ _ _ tag).local
          (advances_within (advances_pair (advances_scalar _ _) (advances_readXml _ _ _)))
          (progresses_within consumes_entry)).andThen fun _ => stays_pure _
    · exact (detached_fields ih _ tag).local.andThen fun _ => stays_ofOutcome _

theorem detached_readXml {type : String} (single : m.isSingle type) (depth : Nat) (tag : String) :
    Detached (m.readXml headers depth type tag) := by
  cases depth with
  | zero => exact fun _ _ _ yields => absurd yields not_yields_missing
  | succ depth =>
    unfold isSingle at single
    unfold readXml
    split at single
    · rename_i kind body
      rw [body]
      exact (detached_scalar kind tag).andThen fun _ => stays_pure _
    · rename_i shape fields body
      rw [body]
      exact (detached_fields (local_readXml depth) fields tag).andThen fun _ => stays_ofOutcome _
    · cases single

end Module
end ServiceClient.Codec
