import ServiceClient.Markup.Reader
import Mathlib.Data.List.Basic

/-! Depth along a list of events, told by where the dropping of elements comes to rest. Balanced
events may be dropped before it starts; behind those of an unclosed root it finds no end. -/

namespace ServiceClient.Markup

/-- The events close what they open and nothing else. -/
def Balanced (xs : List Event) : Prop :=
  ∀ depth rest, dropElements (depth + 1) (xs ++ rest) = dropElements (depth + 1) rest

namespace Balanced
variable {xs ys : List Event}

theorem nil : Balanced [] := fun _ _ => rfl

theorem append (first : Balanced xs) (second : Balanced ys) : Balanced (xs ++ ys) := by
  intro depth rest
  rw [List.append_assoc, first, second]

theorem text (s : String) : Balanced [.text s] := fun _ _ => rfl

theorem element (inner : Balanced xs) (name name' : String) :
    Balanced (.opening name :: xs ++ [.closing name']) := by
  intro depth rest
  calc dropElements (depth + 1) (.opening name :: xs ++ [.closing name'] ++ rest)
      = dropElements (depth + 2) (xs ++ .closing name' :: rest) := by simp [dropElements]
    _ = dropElements (depth + 2) (.closing name' :: rest) := inner (depth + 1) _
    _ = dropElements (depth + 1) rest := by simp [dropElements]

/-- What is dropped at one depth is dropped as well within further elements. -/
theorem exists_dropped {depth : Nat} {left : List Event}
    (dropped : dropElements (depth + 1) xs = some left) :
    ∃ body, xs = body ++ left ∧ ∀ outer rest,
      dropElements (depth + outer + 2) (body ++ rest) = dropElements (outer + 1) rest := by
  induction xs generalizing depth with
  | nil => cases dropped
  | cons x xs ih =>
    cases x with
    | opening name =>
      obtain ⟨body, rfl, deeper⟩ := ih dropped
      refine ⟨.opening name :: body, rfl, fun outer rest => ?_⟩
      have next := deeper outer rest
      rwa [Nat.add_right_comm depth 1 outer] at next
    | text s =>
      obtain ⟨body, rfl, same⟩ := ih dropped
      exact ⟨.text s :: body, rfl, same⟩
    | closing name =>
      cases depth with
      | zero =>
        obtain rfl : xs = left := by simpa [dropElements] using dropped
        exact ⟨[.closing name], rfl, fun outer rest => by simp [dropElements]⟩
      | succ depth =>
        obtain ⟨body, rfl, higher⟩ := ih (by simpa [dropElements] using dropped)
        refine ⟨.closing name :: body, rfl, fun outer rest => ?_⟩
        have next := higher outer rest
        have lower : depth + 1 + outer + 2 - 1 = depth + outer + 2 := by omega
        rw [← lower] at next
        simpa [dropElements] using next

theorem of_dropElements {left : List Event} (name : String)
    (dropped : dropElements 1 xs = some left) :
    ∃ body, xs = body ++ left ∧ Balanced (.opening name :: body) := by
  obtain ⟨body, split, whole⟩ := exists_dropped dropped
  refine ⟨body, split, fun depth rest => ?_⟩
  have inner := whole depth rest
  rwa [Nat.zero_add] at inner

theorem takeWhile_isBlank (xs : List Event) : Balanced (xs.takeWhile Event.isBlank) := by
  induction xs with
  | nil => exact nil
  | cons x xs ih =>
    by_cases blank : x.isBlank
    · rw [List.takeWhile_cons_of_pos blank]
      cases x with
      | text s => exact (text s).append ih
      | opening name => cases blank
      | closing name => cases blank
    · rw [List.takeWhile_cons_of_neg blank]
      exact nil

end Balanced

/-- What follows the first opening tag. -/
def afterRoot (events : List Event) : List Event :=
  (events.dropWhile (!·.isOpening)).drop 1

theorem afterRoot_append {outer : List Event} (unopened : ∀ e ∈ outer, e.isOpening = false)
    (name : String) (inner : List Event) : afterRoot (outer ++ .opening name :: inner) = inner := by
  rw [afterRoot, List.dropWhile_append_of_pos fun e mem => by simp [unopened e mem]]
  rfl

/-- The events, last first, of a document that has opened its root and, at some depth, not closed
it. -/
inductive Unclosed : List Event → Nat → Prop
  | root {outer : List Event} (unopened : ∀ e ∈ outer, e.isOpening = false) (name : String) :
      Unclosed (.opening name :: outer) 1
  | text {xs : List Event} {depth : Nat} (before : Unclosed xs depth) (s : String) :
      Unclosed (.text s :: xs) depth
  | opening {xs : List Event} {depth : Nat} (before : Unclosed xs depth) (name : String) :
      Unclosed (.opening name :: xs) (depth + 1)
  | closing {xs : List Event} {depth : Nat} (before : Unclosed xs (depth + 2)) (name : String) :
      Unclosed (.closing name :: xs) (depth + 1)

namespace Unclosed
variable {xs : List Event} {depth : Nat}

theorem addText (h : Unclosed xs depth) (s : String) : Unclosed (addText s xs) depth := by
  cases h with
  | root unopened name => exact .text (.root unopened name) s
  | text before t => exact .text before (t ++ s)
  | opening before name => exact .text (.opening before name) s
  | closing before name => exact .text (.closing before name) s

/-- Dropping what the root holds goes on at the depth that the events have reached. -/
theorem dropElements_eq (h : Unclosed xs depth) (rest : List Event) :
    dropElements 1 (afterRoot (xs.reverse ++ rest)) = dropElements depth rest := by
  induction h generalizing rest with
  | root unopened name =>
    rw [List.reverse_cons, List.append_assoc, List.singleton_append, afterRoot_append]
    simpa using unopened
  | text before s ih =>
    rw [List.reverse_cons, List.append_assoc, ih]
    rfl
  | opening before name ih =>
    rw [List.reverse_cons, List.append_assoc, ih]
    rfl
  | closing before name ih =>
    rw [List.reverse_cons, List.append_assoc, ih]
    simp [dropElements]

/-- The root has no end. -/
theorem dropElements_eq_none (h : Unclosed xs depth) :
    dropElements 1 (afterRoot xs.reverse) = none := by
  have whole := h.dropElements_eq []
  rwa [List.append_nil] at whole

end Unclosed
end ServiceClient.Markup
