import ServiceClient.Proofs.Markup.Depth
import Mathlib.Data.List.Count

/-! Nesting told by counting tags, and the shapes that readers leave behind: an element of its own,
and a run of elements of one name. -/

namespace ServiceClient.Markup

def Event.isClosing : Event → Bool
  | .closing _ => true
  | _ => false

def openings (xs : List Event) : Nat :=
  xs.countP Event.isOpening

def closings (xs : List Event) : Nat :=
  xs.countP Event.isClosing

@[simp] theorem openings_nil : openings [] = 0 := rfl

@[simp] theorem closings_nil : closings [] = 0 := rfl

@[simp] theorem openings_opening (name : String) (xs : List Event) :
    openings (.opening name :: xs) = openings xs + 1 :=
  List.countP_cons_of_pos rfl

@[simp] theorem openings_closing (name : String) (xs : List Event) :
    openings (.closing name :: xs) = openings xs := rfl

@[simp] theorem closings_opening (name : String) (xs : List Event) :
    closings (.opening name :: xs) = closings xs := rfl

@[simp] theorem closings_closing (name : String) (xs : List Event) :
    closings (.closing name :: xs) = closings xs + 1 :=
  List.countP_cons_of_pos rfl

/-- The depth of nesting never falls below where it starts, and ends there. -/
structure Nested (xs : List Event) : Prop where
  above : ∀ i, closings (xs.take i) ≤ openings (xs.take i)
  ends : closings xs = openings xs

/-- Events that never close more than `depth` further elements are passed over, at the depth they
reach. -/
theorem dropElements_append {xs : List Event} (depth : Nat)
    (above : ∀ i, closings (xs.take i) ≤ openings (xs.take i) + depth) (rest : List Event) :
    dropElements (depth + 1) (xs ++ rest) =
      dropElements (depth + openings xs - closings xs + 1) rest := by
  induction xs generalizing depth with
  | nil => simp
  | cons x xs ih =>
    have later : ∀ i,
        closings ((x :: xs).take (i + 1)) ≤ openings ((x :: xs).take (i + 1)) + depth :=
      fun i => above (i + 1)
    simp only [List.take_succ_cons] at later
    cases x with
    | text s => exact ih depth later
    | opening name =>
      have next := ih (depth + 1) fun i => by
        have bound := later i
        simp only [closings_opening, openings_opening] at bound
        omega
      rw [List.cons_append, dropElements, next, openings_opening, closings_opening]
      congr 2
      omega
    | closing name =>
      cases depth with
      | zero => simpa using later 0
      | succ depth =>
        have next := ih depth fun i => by
          have bound := later i
          simp only [closings_closing, openings_closing] at bound
          omega
        rw [List.cons_append, dropElements, if_neg (by omega), Nat.add_sub_cancel, next,
          openings_closing, closings_closing]
        congr 2
        omega

theorem above_of_dropElements {xs : List Event} (depth : Nat)
    (unfinished : dropElements (depth + 1) xs = none) (i : Nat) :
    closings (xs.take i) ≤ openings (xs.take i) + depth := by
  induction xs generalizing depth i with
  | nil => simp
  | cons x xs ih =>
    cases i with
    | zero => simp
    | succ i =>
      rw [List.take_succ_cons]
      cases x with
      | text s => exact ih depth unfinished i
      | opening name =>
        have bound := ih (depth + 1) unfinished i
        rw [closings_opening, openings_opening]
        omega
      | closing name =>
        cases depth with
        | zero => simp [dropElements] at unfinished
        | succ depth =>
          have bound := ih depth (by simpa [dropElements] using unfinished) i
          rw [closings_closing, openings_closing]
          omega

/-- Events may be dropped unseen exactly when they are nested in themselves. -/
theorem balanced_iff_nested {xs : List Event} : Balanced xs ↔ Nested xs := by
  constructor
  · intro balanced
    have above : ∀ i, closings (xs.take i) ≤ openings (xs.take i) := by
      have unfinished := balanced 0 []
      rw [List.append_nil] at unfinished
      exact above_of_dropElements 0 unfinished
    have whole := above xs.length
    rw [List.take_length] at whole
    have reached := dropElements_append 0 above [.closing ""]
    rw [balanced, Nat.zero_add] at reached
    refine ⟨above, ?_⟩
    by_contra uneven
    have deeper : ¬openings xs - closings xs + 1 ≤ 1 := by omega
    simp [dropElements, deeper] at reached
  · intro nested depth rest
    rw [dropElements_append depth (fun i => Nat.le_add_right_of_le (nested.above i)), nested.ends,
      Nat.add_sub_cancel]

/-- One element `tag` with all that it holds, perhaps behind blank text. -/
def IsElement (tag : String) (xs : List Event) : Prop :=
  ∃ blank body, xs = blank ++ .opening tag :: body ++ [.closing tag] ∧
    (∀ e ∈ blank, e.isBlank) ∧ Nested body

/-- Any number of elements `tag`, with blank text around them. -/
def IsRun (tag : String) (xs : List Event) : Prop :=
  ∃ (elements : List (List Event)) (blank : List Event), xs = elements.flatten ++ blank ∧
    (∀ e ∈ elements, IsElement tag e) ∧ ∀ e ∈ blank, e.isBlank

section Shapes
variable {tag : String} {xs ys front : List Event}

theorem IsElement.behind (element : IsElement tag xs) (blanks : ∀ e ∈ front, e.isBlank) :
    IsElement tag (front ++ xs) := by
  obtain ⟨blank, body, rfl, blanks', nested⟩ := element
  refine ⟨front ++ blank, body, by simp, ?_, nested⟩
  intro e mem
  exact (List.mem_append.mp mem).elim (blanks e) (blanks' e)

theorem IsRun.blank (blanks : ∀ e ∈ front, e.isBlank) : IsRun tag front :=
  ⟨[], front, rfl, nofun, blanks⟩

theorem IsRun.cons (run : IsRun tag ys) (element : IsElement tag xs) : IsRun tag (xs ++ ys) := by
  obtain ⟨elements, blank, rfl, each, blanks⟩ := run
  exact ⟨xs :: elements, blank, by simp, List.forall_mem_cons.mpr ⟨element, each⟩, blanks⟩

end Shapes
end ServiceClient.Markup
