import Mathlib.Data.List.Basic
import ServiceClient.Text.Blank
import ServiceClient.Text.Lines

/-! The runs of a text between separators, and its words. White space ends a word wherever it
stands, so the words of a text are those of its lines, and words with a space before each are read
back. -/

namespace ServiceClient.Text

/-- The maximal runs of characters that are no separators, in order. -/
inductive Runs (sep : Char → Bool) : List Char → List (List Char) → Prop
  | nil : Runs sep [] []
  | skip {c : Char} {s : List Char} {runs : List (List Char)} (here : sep c)
      (rest : Runs sep s runs) : Runs sep (c :: s) runs
  | run {run s : List Char} {runs : List (List Char)} (some : run ≠ [])
      (kept : ∀ c ∈ run, sep c = false) (stop : ∀ c ∈ s.head?, sep c) (rest : Runs sep s runs) :
      Runs sep (run ++ s) (run :: runs)

section Runs
variable {sep : Char → Bool} {c : Char} {s t run : List Char} {runs more : List (List Char)}

theorem splitRuns_skip (here : sep c) : splitRuns sep (c :: s) = splitRuns sep s := by
  rw [splitRuns.eq_def]
  exact if_pos here

theorem splitRuns_run (some : run ≠ []) (kept : ∀ c ∈ run, sep c = false)
    (stop : ∀ c ∈ s.head?, sep c) : splitRuns sep (run ++ s) = run :: splitRuns sep s := by
  induction run with
  | nil => exact absurd rfl some
  | cons c run ih =>
    obtain ⟨own, others⟩ := List.forall_mem_cons.mp kept
    have skipped : ¬sep c = true := by simp [own]
    rw [List.cons_append, splitRuns.eq_def]
    dsimp only
    rw [if_neg skipped]
    cases run with
    | nil =>
      cases s with
      | nil => rfl
      | cons d s =>
        rw [List.nil_append]
        cases splitRuns sep (d :: s) with
        | nil => rfl
        | cons => exact if_pos (stop d rfl)
    | cons d run =>
      rw [ih (List.cons_ne_nil d run) others]
      exact if_neg (by simp [others d List.mem_cons_self])

theorem runs_splitRuns (sep : Char → Bool) (s : List Char) : Runs sep s (splitRuns sep s) :=
  match s with
  | [] => .nil
  | c :: s => by
    cases own : sep c with
    | true =>
      rw [splitRuns_skip own]
      exact .skip own (runs_splitRuns sep s)
    | false =>
      have whole : c :: s = (c :: s.takeWhile (!sep ·)) ++ s.dropWhile (!sep ·) := by
        rw [List.cons_append, List.takeWhile_append_dropWhile]
      have kept : ∀ d ∈ c :: s.takeWhile (!sep ·), sep d = false := by
        refine List.forall_mem_cons.mpr ⟨own, fun d mem => ?_⟩
        simpa using List.all_eq_true.mp List.all_takeWhile d mem
      have stop : ∀ d ∈ (s.dropWhile (!sep ·)).head?, sep d := fun d mem => by
        have head := List.head?_dropWhile_not (!sep ·) s
        rw [mem] at head
        simpa using head
      rw [whole, splitRuns_run (List.cons_ne_nil _ _) kept stop]
      exact .run (List.cons_ne_nil _ _) kept stop (runs_splitRuns sep _)
termination_by s.length
decreasing_by
  · exact Nat.lt_succ_of_le (List.dropWhile_sublist _).length_le
  · exact Nat.lt_succ_self _

theorem splitRuns_eq_iff : splitRuns sep s = runs ↔ Runs sep s runs := by
  constructor
  · rintro rfl
    exact runs_splitRuns sep s
  · intro split
    induction split with
    | nil => rfl
    | skip here _ ih => rw [splitRuns_skip here, ih]
    | run some kept stop _ ih => rw [splitRuns_run some kept stop, ih]

theorem Runs.mem (split : Runs sep s runs) (mem : run ∈ runs) :
    run ≠ [] ∧ ∀ c ∈ run, sep c = false := by
  induction split with
  | nil => cases mem
  | skip _ _ ih => exact ih mem
  | run some kept _ _ ih =>
    rcases List.mem_cons.mp mem with rfl | mem
    · exact ⟨some, kept⟩
    · exact ih mem

theorem mem_splitRuns (mem : run ∈ splitRuns sep s) : run ≠ [] ∧ ∀ c ∈ run, sep c = false :=
  (runs_splitRuns sep s).mem mem

theorem Runs.append_cons (first : Runs sep s runs) (here : sep c) (second : Runs sep t more) :
    Runs sep (s ++ c :: t) (runs ++ more) := by
  induction first with
  | nil => exact .skip here second
  | skip before _ ih => exact .skip before ih
  | @run run s _ some kept stop _ ih =>
    rw [List.append_assoc, List.cons_append]
    refine .run some kept ?_ ih
    cases s with
    | nil => simpa using here
    | cons => exact stop

end Runs

/-! Words -/

/-- Characters other than white space, one at least. -/
def IsWord (w : List Char) : Prop :=
  w ≠ [] ∧ ∀ c ∈ w, isBlank c = false

theorem words_append_cons {c : Char} (blank : isBlank c) (s t : List Char) :
    words (s ++ c :: t) = words s ++ words t :=
  splitRuns_eq_iff.mpr ((runs_splitRuns isBlank s).append_cons blank (runs_splitRuns isBlank t))

theorem exists_splitAt (c : Char) (s : List Char) :
    ∃ part parts, splitAt c s = part :: parts ∧ s = part ++ parts.flatMap (c :: ·) := by
  induction s with
  | nil => exact ⟨[], [], rfl, rfl⟩
  | cons d s ih =>
    obtain ⟨part, parts, split, whole⟩ := ih
    rw [splitAt, split]
    by_cases same : d = c
    · refine ⟨[], part :: parts, if_pos same, ?_⟩
      rw [same, whole]
      rfl
    · refine ⟨d :: part, parts, if_neg same, ?_⟩
      rw [List.cons_append, ← whole]

/-- A line feed ends a word, so no word runs over two lines. -/
theorem flatMap_words_linesOf (s : List Char) : (linesOf s).flatMap words = words s := by
  obtain ⟨part, parts, split, whole⟩ := exists_splitAt '\n' s
  rw [linesOf, split, whole]
  clear split whole
  induction parts generalizing part with
  | nil => simp
  | cons next parts ih =>
    rw [List.flatMap_cons, ih next, List.flatMap_cons, List.cons_append,
      words_append_cons (by decide)]

theorem words_spaced {ws : List (List Char)} (each : ∀ w ∈ ws, IsWord w) :
    words (ws.flatMap (' ' :: ·)) = ws := by
  refine splitRuns_eq_iff.mpr ?_
  induction ws with
  | nil => exact .nil
  | cons w ws ih =>
    obtain ⟨⟨some, kept⟩, others⟩ := List.forall_mem_cons.mp each
    refine .skip (by decide) (.run some kept ?_ (ih others))
    cases ws with
    | nil => exact nofun
    | cons =>
      rintro _ ⟨⟩
      decide

end ServiceClient.Text
