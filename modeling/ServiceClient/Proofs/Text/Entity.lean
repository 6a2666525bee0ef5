import Mathlib.Data.List.Basic
import ServiceClient.Text.Entity

/-! Character references decoded in one pass: each reference that names a character becomes it, and
all else stays, what decoding makes of a reference included. -/

namespace ServiceClient.Text.Entity

/-- Between an ampersand and the next semicolon, with no other ampersand. -/
def IsName (name : List Char) : Prop :=
  '&' ∉ name ∧ ';' ∉ name

/-- A text and what one pass over its references makes of it. -/
inductive Decoded : List Char → List Char → Prop
  | nil : Decoded [] []
  | reference {name s t : List Char} {c : Char} (name_ok : IsName name)
      (named : resolve? name = some c) (rest : Decoded s t) :
      Decoded ('&' :: name ++ ';' :: s) (c :: t)
  | other {c : Char} {s t : List Char}
      (none : ∀ name rest, c :: s = '&' :: name ++ ';' :: rest → IsName name →
        resolve? name = none) (rest : Decoded s t) :
      Decoded (c :: s) (c :: t)

theorem decodeFrom_none_append {plain : List Char} (free : '&' ∉ plain) (s : List Char) :
    decodeFrom none (plain ++ s) = plain ++ decodeFrom none s := by
  induction plain with
  | nil => rfl
  | cons c plain ih =>
    obtain ⟨own, others⟩ := List.ne_and_not_mem_of_not_mem_cons free
    rw [List.cons_append, decodeFrom.eq_def]
    simp [Ne.symm own, ih others]

theorem decodeFrom_some_append {name more : List Char} (ok : IsName more) (s : List Char) :
    decodeFrom (some name) (more ++ s) = decodeFrom (some (more.reverse ++ name)) s := by
  induction more generalizing name with
  | nil => rfl
  | cons c more ih =>
    obtain ⟨ampersand, free⟩ := List.ne_and_not_mem_of_not_mem_cons ok.1
    obtain ⟨semicolon, closed⟩ := List.ne_and_not_mem_of_not_mem_cons ok.2
    rw [List.cons_append, decodeFrom.eq_def]
    simp [Ne.symm ampersand, Ne.symm semicolon, ih ⟨free, closed⟩]

theorem decodeFrom_opened {name : List Char} (ok : IsName name) (s : List Char) :
    decodeFrom none ('&' :: name ++ s) = decodeFrom (some name.reverse) s := by
  rw [List.cons_append, decodeFrom.eq_def]
  simp [decodeFrom_some_append ok]

/-- A text is a name to its end, up to another ampersand, or up to a semicolon. -/
theorem exists_name (s : List Char) :
    ∃ name, IsName name ∧ (s = name ∨ (∃ rest, s = name ++ '&' :: rest) ∨
      ∃ rest, s = name ++ ';' :: rest) := by
  induction s with
  | nil => exact ⟨[], ⟨List.not_mem_nil, List.not_mem_nil⟩, .inl rfl⟩
  | cons c s ih =>
    by_cases ampersand : c = '&'
    · exact ⟨[], ⟨List.not_mem_nil, List.not_mem_nil⟩, .inr (.inl ⟨s, by rw [ampersand]; rfl⟩)⟩
    by_cases semicolon : c = ';'
    · exact ⟨[], ⟨List.not_mem_nil, List.not_mem_nil⟩, .inr (.inr ⟨s, by rw [semicolon]; rfl⟩)⟩
    obtain ⟨name, ok, ends⟩ := ih
    refine ⟨c :: name, ⟨?_, ?_⟩, ?_⟩
    · exact List.not_mem_cons_of_ne_of_not_mem (Ne.symm ampersand) ok.1
    · exact List.not_mem_cons_of_ne_of_not_mem (Ne.symm semicolon) ok.2
    · rcases ends with rfl | ⟨rest, rfl⟩ | ⟨rest, rfl⟩
      · exact .inl rfl
      · exact .inr (.inl ⟨rest, rfl⟩)
      · exact .inr (.inr ⟨rest, rfl⟩)

theorem decodeFrom_reference {name s : List Char} {c : Char} (ok : IsName name)
    (named : resolve? name = some c) :
    decodeFrom none ('&' :: name ++ ';' :: s) = c :: decodeFrom none s := by
  rw [decodeFrom_opened ok, decodeFrom.eq_def]
  simp [named]

theorem decodeFrom_other {c : Char} {s : List Char}
    (none : ∀ name rest, c :: s = '&' :: name ++ ';' :: rest → IsName name →
      resolve? name = none) :
    decodeFrom .none (c :: s) = c :: decodeFrom .none s := by
  by_cases own : c = '&'
  · subst own
    -- What is held back for a name comes out unchanged wherever the name ends.
    obtain ⟨name, ok, ends⟩ := exists_name s
    rcases ends with rfl | ⟨rest, rfl⟩ | ⟨rest, rfl⟩
    · have opened := decodeFrom_opened ok []
      have whole := decodeFrom_none_append ok.1 []
      simp only [List.append_nil] at opened whole
      rw [opened, whole]
      simp [decodeFrom]
    · rw [← List.cons_append, decodeFrom_opened ok, decodeFrom_none_append ok.1, decodeFrom.eq_def]
      simp [decodeFrom]
    · have unnamed := none name rest rfl ok
      rw [← List.cons_append, decodeFrom_opened ok, decodeFrom_none_append ok.1, decodeFrom.eq_def]
      simp [unnamed, decodeFrom]
  · rw [decodeFrom.eq_def]
    simp [own]

theorem decoded_decodeFrom (s : List Char) : Decoded s (decodeFrom none s) :=
  match s with
  | [] => .nil
  | c :: s => by
    by_cases named : ∃ name rest, c :: s = '&' :: name ++ ';' :: rest ∧ IsName name ∧
        resolve? name ≠ none
    · obtain ⟨name, rest, whole, ok, some⟩ := named
      obtain ⟨d, named⟩ := Option.ne_none_iff_exists'.mp some
      have shorter : rest.length ≤ s.length := by
        have lengths := congrArg List.length whole
        simp only [List.length_append, List.length_cons] at lengths
        omega
      rw [whole, decodeFrom_reference ok named]
      exact .reference ok named (decoded_decodeFrom rest)
    · have none : ∀ name rest, c :: s = '&' :: name ++ ';' :: rest → IsName name →
          resolve? name = none := fun name rest whole ok =>
        Classical.not_not.mp fun some => named ⟨name, rest, whole, ok, some⟩
      rw [decodeFrom_other none]
      exact .other none (decoded_decodeFrom s)
termination_by s.length

theorem decode_eq_iff {s t : List Char} : decode s = t ↔ Decoded s t := by
  constructor
  · rintro rfl
    exact decoded_decodeFrom s
  · intro decoded
    induction decoded with
    | nil => rfl
    | reference ok named _ ih => rw [decode, decodeFrom_reference ok named, ← decode, ih]
    | other none _ ih => rw [decode, decodeFrom_other none, ← decode, ih]

end ServiceClient.Text.Entity
