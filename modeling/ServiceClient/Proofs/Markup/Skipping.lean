import ServiceClient.Proofs.Markup.Nesting

/-! Where the skipping of an element ends. The elements that are open are counted from its opening
tag on; the count never falls below none, and it is back at none for the first time behind the
closing tag at which the skipping stops. -/

namespace ServiceClient.Markup

/-- Drops the element that the events begin with, with a count of open elements that starts at none.
Absent if a closing tag is met at none; inside, nothing is left where the element has no end. -/
def countedDrop (depth : Nat) : List Event → Option (Option (List Event))
  | [] => some none
  | .opening _ :: events => countedDrop (depth + 1) events
  | .closing _ :: events =>
    match depth with
    | 0 => none
    | depth + 1 => if depth = 0 then some (some events) else countedDrop depth events
  | .text _ :: events => countedDrop depth events

/-- The event number `j` is a closing tag behind which `depth` open elements, and those opened since,
are all closed. -/
structure ReturnsFrom (depth : Nat) (events : List Event) (j : Nat) : Prop where
  closing : ∃ name, events[j]? = some (.closing name)
  level : closings (events.take (j + 1)) = openings (events.take (j + 1)) + depth

section Dropping
variable {depth j : Nat} {events : List Event}

theorem countedDrop_succ (depth : Nat) (events : List Event) :
    countedDrop (depth + 1) events = some (dropElements (depth + 1) events) := by
  induction events generalizing depth with
  | nil => rfl
  | cons e events ih =>
    cases e with
    | opening name => exact ih (depth + 1)
    | text s => exact ih depth
    | closing name =>
      rw [countedDrop, dropElements]
      cases depth with
      | zero => rfl
      | succ depth =>
        rw [if_neg (Nat.succ_ne_zero depth), if_neg (by omega), ih]
        rfl

theorem returnsFrom_text {s : String} :
    ReturnsFrom depth (.text s :: events) (j + 1) ↔ ReturnsFrom depth events j :=
  ⟨fun ⟨closing, level⟩ => ⟨closing, level⟩, fun ⟨closing, level⟩ => ⟨closing, level⟩⟩

theorem returnsFrom_opening {name : String} :
    ReturnsFrom depth (.opening name :: events) (j + 1) ↔ ReturnsFrom (depth + 1) events j := by
  have levels : closings ((Event.opening name :: events).take (j + 2)) =
      openings ((Event.opening name :: events).take (j + 2)) + depth ↔
        closings (events.take (j + 1)) = openings (events.take (j + 1)) + (depth + 1) := by
    rw [List.take_succ_cons, closings_opening, openings_opening, Nat.add_assoc, Nat.add_comm 1]
  exact ⟨fun ⟨closing, level⟩ => ⟨closing, levels.mp level⟩,
    fun ⟨closing, level⟩ => ⟨closing, levels.mpr level⟩⟩

theorem returnsFrom_closing {name : String} :
    ReturnsFrom (depth + 1) (.closing name :: events) (j + 1) ↔ ReturnsFrom depth events j := by
  have levels : closings ((Event.closing name :: events).take (j + 2)) =
      openings ((Event.closing name :: events).take (j + 2)) + (depth + 1) ↔
        closings (events.take (j + 1)) = openings (events.take (j + 1)) + depth := by
    rw [List.take_succ_cons, closings_closing, openings_closing, ← Nat.add_assoc,
      Nat.add_right_cancel_iff]
  exact ⟨fun ⟨closing, level⟩ => ⟨closing, levels.mp level⟩,
    fun ⟨closing, level⟩ => ⟨closing, levels.mpr level⟩⟩

theorem not_returnsFrom_zero {e : Event} (deeper : ∀ name, e = .closing name → 1 < depth) :
    ¬ReturnsFrom depth (e :: events) 0 := by
  rintro ⟨⟨name, here⟩, level⟩
  obtain rfl : e = .closing name := Option.some.inj here
  have more := deeper name rfl
  simp at level
  omega

end Dropping

/-- `left` follows the first closing tag behind which `depth` open elements, and those opened since,
are all closed. -/
def LeftBehind (depth : Nat) (events left : List Event) : Prop :=
  ∃ j, ReturnsFrom depth events j ∧ (∀ i < j, ¬ReturnsFrom depth events i) ∧
    left = events.drop (j + 1)

section Dropping
variable {depth : Nat} {events left : List Event}

theorem leftBehind_cons {e : Event} {inner : Nat} (stays : ¬ReturnsFrom depth (e :: events) 0)
    (shift : ∀ j, ReturnsFrom depth (e :: events) (j + 1) ↔ ReturnsFrom inner events j) :
    LeftBehind depth (e :: events) left ↔ LeftBehind inner events left := by
  constructor
  · rintro ⟨j, returns, first, rfl⟩
    cases j with
    | zero => exact absurd returns stays
    | succ j =>
      refine ⟨j, (shift j).mp returns, fun i before => ?_, rfl⟩
      rw [← shift]
      exact first (i + 1) (Nat.succ_lt_succ before)
  · rintro ⟨j, returns, first, rfl⟩
    refine ⟨j + 1, (shift j).mpr returns, fun i before => ?_, rfl⟩
    cases i with
    | zero => exact stays
    | succ i =>
      rw [shift]
      exact first i (Nat.lt_of_succ_lt_succ before)

theorem leftBehind_closing {name : String} :
    LeftBehind 1 (.closing name :: events) left ↔ events = left := by
  have returns : ReturnsFrom 1 (.closing name :: events) 0 := ⟨⟨name, rfl⟩, by simp⟩
  constructor
  · rintro ⟨j, -, first, rfl⟩
    cases j with
    | zero => rfl
    | succ j => exact absurd returns (first 0 j.succ_pos)
  · rintro rfl
    exact ⟨0, returns, fun i before => absurd before i.not_lt_zero, rfl⟩

theorem dropElements_eq_some_iff :
    dropElements (depth + 1) events = some left ↔ LeftBehind (depth + 1) events left := by
  induction events generalizing depth with
  | nil =>
    constructor
    · intro dropped
      cases dropped
    · rintro ⟨j, ⟨⟨name, here⟩, -⟩, -⟩
      cases here
  | cons e events ih =>
    cases e with
    | opening name =>
      have stays : ¬ReturnsFrom (depth + 1) (.opening name :: events) 0 :=
        not_returnsFrom_zero (by simp)
      rw [dropElements, ih, leftBehind_cons stays fun j => returnsFrom_opening]
    | text s =>
      have stays : ¬ReturnsFrom (depth + 1) (.text s :: events) 0 := not_returnsFrom_zero (by simp)
      rw [dropElements, ih, leftBehind_cons stays fun j => returnsFrom_text]
    | closing name =>
      rw [dropElements]
      cases depth with
      | zero => rw [if_pos (Nat.le_refl 1), Option.some_inj, leftBehind_closing]
      | succ depth =>
        have stays : ¬ReturnsFrom (depth + 2) (.closing name :: events) 0 :=
          not_returnsFrom_zero fun _ _ => by omega
        rw [if_neg (by omega), Nat.add_sub_cancel, ih, leftBehind_cons stays
          fun j => returnsFrom_closing]

/-- Dropping stops where the count from the opening tag on is back at none. -/
theorem leftBehind_opening {name : String} :
    LeftBehind 0 (.opening name :: events) left ↔ dropElements 1 events = some left := by
  have stays : ¬ReturnsFrom 0 (.opening name :: events) 0 := not_returnsFrom_zero (by simp)
  rw [dropElements_eq_some_iff, leftBehind_cons stays fun j => returnsFrom_opening]

end Dropping

section Skipping
variable {events inner : List Event} {name : String}

theorem skipElement_of_opening (opens : skipBlank events = .opening name :: inner) :
    skipElement events = (dropElements 1 inner).elim (.error (.unclosedElement name), [])
      fun left => (.ok (), left) := by
  simp only [skipElement, opens]
  cases dropElements 1 inner <;> rfl

theorem skipElement_of_not_opening
    (other : ∀ name inner, skipBlank events ≠ .opening name :: inner) :
    skipElement events =
      (.error (.unexpectedElement .element (skipBlank events).head?), skipBlank events) := by
  cases met : skipBlank events with
  | nil => simp [skipElement, met]
  | cons e rest =>
    cases e with
    | opening name => exact absurd met (other name rest)
    | closing | text => simp [skipElement, met]

theorem skipElement_eq_ok_iff {left : List Event} : skipElement events = (.ok (), left) ↔
    (∃ name inner, skipBlank events = .opening name :: inner) ∧
      LeftBehind 0 (skipBlank events) left := by
  by_cases opens : ∃ name inner, skipBlank events = .opening name :: inner
  · obtain ⟨name, inner, opens⟩ := opens
    rw [skipElement_of_opening opens, opens, leftBehind_opening]
    cases dropElements 1 inner <;> simp
  · have other : ∀ name inner, skipBlank events ≠ .opening name :: inner :=
      fun name inner same => opens ⟨name, inner, same⟩
    rw [skipElement_of_not_opening other]
    simp [opens]

theorem skipElement_of_unclosed (opens : skipBlank events = .opening name :: inner)
    (unclosed : ∀ j, ¬ReturnsFrom 0 (skipBlank events) j) :
    skipElement events = (.error (.unclosedElement name), []) := by
  rw [skipElement_of_opening opens]
  cases dropped : dropElements 1 inner with
  | none => rfl
  | some left =>
    obtain ⟨j, returns, -⟩ := leftBehind_opening.mpr dropped
    exact absurd returns (opens ▸ unclosed j)

end Skipping

/-- Skipping passes blank text and the element that follows it, up to the first closing tag that
brings the depth, counted from the opening tag on, back to zero. The count never falls below zero.
Where no element follows, or it has no end, the error says so. -/
theorem skipElement_exact (events : List Event) :
    ∃ blank rest, events = blank ++ rest ∧ (∀ e ∈ blank, e.isBlank) ∧
      (∀ e ∈ rest.head?, e.isBlank = false) ∧
      (∀ left, skipElement events = (.ok (), left) ↔
        (∃ name inner, rest = .opening name :: inner) ∧ LeftBehind 0 rest left) ∧
      (∀ name inner, rest = .opening name :: inner →
        (∃ result, countedDrop 0 rest = some result ∧ skipElement events =
          result.elim (.error (.unclosedElement name), []) fun left => (.ok (), left)) ∧
        ((∀ j, ¬ReturnsFrom 0 rest j) →
          skipElement events = (.error (.unclosedElement name), []))) ∧
      ((∀ name inner, rest ≠ .opening name :: inner) →
        skipElement events = (.error (.unexpectedElement .element rest.head?), rest)) := by
  have whole : events = events.takeWhile Event.isBlank ++ skipBlank events :=
    List.takeWhile_append_dropWhile.symm
  have blanks : ∀ e ∈ events.takeWhile Event.isBlank, e.isBlank :=
    List.all_eq_true.mp List.all_takeWhile
  have next : ∀ e ∈ (skipBlank events).head?, e.isBlank = false := by
    intro e mem
    have head := List.head?_dropWhile_not Event.isBlank events
    rw [← skipBlank, mem] at head
    simpa using head
  refine ⟨_, _, whole, blanks, next, fun left => skipElement_eq_ok_iff, ?_,
    skipElement_of_not_opening⟩
  intro name inner opens
  refine ⟨⟨dropElements 1 inner, ?_, skipElement_of_opening opens⟩, skipElement_of_unclosed opens⟩
  rw [opens]
  exact countedDrop_succ 0 inner

end ServiceClient.Markup
