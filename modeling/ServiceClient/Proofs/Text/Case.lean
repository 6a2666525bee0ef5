import Mathlib
import ServiceClient.Proofs.Text.Words
import ServiceClient.Text.Case

/-! Names in Pascal case: letters and digits alone, the first of which is no lower-case letter.
Names in snake case: lower-case letters, digits and underscores. Either is spelt without a letter or
digit only for names without one. -/

namespace ServiceClient.Text

theorem splitRuns_eq_nil {sep : Char → Bool} {s : List Char} :
    splitRuns sep s = [] ↔ ∀ c ∈ s, sep c := by
  induction s with
  | nil => simp [splitRuns]
  | cons c s ih =>
    rw [List.forall_mem_cons, ← ih, splitRuns.eq_def]
    dsimp only
    cases own : sep c with
    | true => simp
    | false =>
      simp only [Bool.false_eq_true, if_false, false_and, iff_false]
      split
      · split <;> exact List.cons_ne_nil _ _
      · exact List.cons_ne_nil _ _

/-- Only a character itself is lowered to one that is no lower-case letter. -/
theorem eq_of_toLower_eq {c d : Char} (same : c.toLower = d) (other : d.isLower = false) :
    c = d := by
  by_cases upper : c.isUpper
  · have lower : c.toLower.isLower := by simp [Char.isAlpha, upper]
    rw [same, other] at lower
    cases lower
  · rwa [Char.toLower_eq_of_not_isUpper upper] at same

theorem isAlphanum_toUpper {c : Char} (kept : c.isAlphanum) : c.toUpper.isAlphanum := by
  rw [Char.isAlphanum, Bool.or_eq_true] at kept ⊢
  by_cases lower : c.isLower
  · exact .inl (by simp [Char.isAlpha, lower])
  · rwa [Char.toUpper_eq_of_not_isLower lower]

theorem isAlphanum_of_mem_pascalChars {s : List Char} {c : Char} (mem : c ∈ pascalChars s) :
    c.isAlphanum := by
  obtain ⟨word, here, mem⟩ := List.mem_flatten.mp mem
  obtain ⟨run, split, rfl⟩ := List.mem_map.mp here
  have kept : ∀ d ∈ run, d.isAlphanum := by simpa using (mem_splitRuns split).2
  cases run with
  | nil => cases mem
  | cons d run =>
    rcases List.mem_cons.mp mem with rfl | mem
    · exact isAlphanum_toUpper (kept d List.mem_cons_self)
    · exact kept c (List.mem_cons_of_mem _ mem)

theorem head_pascalChars {s rest : List Char} {c : Char} (spelt : pascalChars s = c :: rest) :
    c.isLower = false := by
  rw [pascalChars] at spelt
  cases split : splitRuns (!·.isAlphanum) s with
  | nil => simp [split] at spelt
  | cons run runs =>
    have whole := (mem_splitRuns (split ▸ List.mem_cons_self)).1
    cases run with
    | nil => exact absurd rfl whole
    | cons d run =>
      simp only [split, List.map_cons, capitalize, List.flatten_cons, List.cons_append,
        List.cons.injEq] at spelt
      rw [← spelt.1, Char.isLower_toUpper_eq_false]

theorem pascalChars_eq_nil {s : List Char} :
    pascalChars s = [] ↔ ∀ c ∈ s, c.isAlphanum = false := by
  have none : pascalChars s = [] ↔ splitRuns (!·.isAlphanum) s = [] := by
    constructor
    · intro spelt
      cases split : splitRuns (!·.isAlphanum) s with
      | nil => rfl
      | cons run runs =>
        have whole := (mem_splitRuns (split ▸ List.mem_cons_self)).1
        cases run with
        | nil => exact absurd rfl whole
        | cons c run => simp [pascalChars, split, capitalize] at spelt
    · intro split
      rw [pascalChars, split]
      rfl
  rw [none, splitRuns_eq_nil]
  simp

theorem isLower_or_isDigit {c : Char} (kept : c.isAlphanum) (small : c.isUpper = false) :
    c.isLower ∨ c.isDigit := by
  simpa [Char.isAlphanum, Char.isAlpha, small] using kept

theorem mem_snakeFrom {before : Option Char} {s : List Char} {c : Char}
    (mem : c ∈ snakeFrom before s) : c.isLower ∨ c.isDigit ∨ c = '_' := by
  induction s generalizing before with
  | nil => cases mem
  | cons d s ih =>
    rw [snakeFrom] at mem
    split at mem
    · rename_i upper
      have lower : d.toLower.isLower := by simp [Char.isAlpha, upper]
      split at mem
      · rcases List.mem_cons.mp mem with rfl | mem
        · exact .inr (.inr rfl)
        · rcases List.mem_cons.mp mem with rfl | mem
          · exact .inl lower
          · exact ih mem
      · rcases List.mem_cons.mp mem with rfl | mem
        · exact .inl lower
        · exact ih mem
    · rename_i small
      split at mem
      · rename_i kept
        rcases List.mem_cons.mp mem with rfl | mem
        · rcases Bool.or_eq_true_iff.mp kept with kept | same
          · exact (isLower_or_isDigit kept (by simpa using small)).imp_right .inl
          · exact .inr (.inr (by simpa using same))
        · exact ih mem
      · rcases List.mem_cons.mp mem with rfl | mem
        · exact .inr (.inr rfl)
        · exact ih mem

/-- Letters and digits, and nothing else, leave more than underscores. -/
theorem all_snakeFrom (before : Option Char) (s : List Char) :
    (snakeFrom before s).all (· == '_') = s.all (!·.isAlphanum) := by
  induction s generalizing before with
  | nil => rfl
  | cons c s ih =>
    rw [snakeFrom, List.all_cons]
    split
    · rename_i upper
      have kept : c.isAlphanum := by simp [Char.isAlphanum, Char.isAlpha, upper]
      have other : (c.toLower == '_') = false := by
        rw [beq_eq_false_iff_ne]
        intro same
        rw [eq_of_toLower_eq same rfl] at upper
        cases upper
      split <;> simp [kept, other]
    · split
      · rename_i kept
        rw [List.all_cons, ih]
        cases own : c.isAlphanum with
        | true =>
          have other : (c == '_') = false := by
            rw [beq_eq_false_iff_ne]
            rintro rfl
            cases own
          simp [other]
        | false =>
          have same : (c == '_') = true := by simpa [own] using kept
          rw [same]
          rfl
      · rename_i dropped
        have own : c.isAlphanum = false := by
          simp only [Bool.or_eq_true, not_or] at dropped
          exact Bool.eq_false_iff.mpr dropped.1
        rw [List.all_cons, ih, own]
        rfl

end ServiceClient.Text
