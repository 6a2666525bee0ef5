import ServiceClient.Wire.Template

/-! Templates expanded segment by segment. Where no placeholder runs beyond its segment, every
segment of a template is expanded by itself. -/

namespace ServiceClient.Wire.Template
open ServiceClient.Text

/-- Whether no placeholder is left open, in a text that starts inside one or outside. -/
def closes (inside : Bool) : List Char → Bool
  | [] => !inside
  | c :: s => closes (if inside then c != '}' else c == '{') s

/-- Segments of a path, each after its slash. -/
def joined (segments : List (List Char)) : List Char :=
  segments.flatMap ('/' :: ·)

section Expansion
variable {value? : String → Option String}

theorem expandFrom_append {opened : Option (List Char)} {s : List Char}
    (closed : closes opened.isSome s) (rest : List Char) :
    expandFrom value? opened (s ++ rest) =
      expandFrom value? opened s ++ expandFrom value? none rest := by
  induction s generalizing opened with
  | nil =>
    cases opened with
    | none => rfl
    | some read => cases closed
  | cons c s ih =>
    rw [closes] at closed
    rw [List.cons_append, expandFrom.eq_def, expandFrom.eq_def _ _ (c :: s)]
    cases opened with
    | none =>
      dsimp only
      split
      · rename_i opens
        have inside : closes (some ([] : List Char)).isSome s := by simpa [opens] using closed
        exact ih inside
      · rename_i other
        have same : (c == '{') = false := beq_eq_false_iff_ne.mpr other
        have outside : closes (none : Option (List Char)).isSome s := by simpa [same] using closed
        rw [ih outside, List.cons_append]
    | some read =>
      dsimp only
      split
      · rename_i ends
        have outside : closes (none : Option (List Char)).isSome s := by simpa [ends] using closed
        rw [ih outside, List.append_assoc]
      · rename_i other
        have different : (c != '}') = true := bne_iff_ne.mpr other
        have inside : closes (some (c :: read)).isSome s := by simpa [different] using closed
        exact ih inside

theorem expandFrom_slash (s : List Char) :
    expandFrom value? none ('/' :: s) = '/' :: expandFrom value? none s := by
  rw [expandFrom, if_neg (by decide)]

theorem expandFrom_opened {read name : List Char} (plain : '}' ∉ name) (rest : List Char) :
    expandFrom value? (some read) (name ++ '}' :: rest) =
      fill value? (read.reverse ++ name) ++ expandFrom value? none rest := by
  induction name generalizing read with
  | nil => rw [List.nil_append, expandFrom, if_pos rfl, List.append_nil]
  | cons c name ih =>
    rw [List.mem_cons, not_or] at plain
    rw [List.cons_append, expandFrom, if_neg (Ne.symm plain.1), ih plain.2, List.reverse_cons,
      List.append_assoc, List.singleton_append]

theorem closes_opened {name : List Char} (plain : '}' ∉ name) : closes true (name ++ ['}']) := by
  induction name with
  | nil => rfl
  | cons c name ih =>
    rw [List.mem_cons, not_or] at plain
    have other : (c != '}') = true := bne_iff_ne.mpr (Ne.symm plain.1)
    rw [List.cons_append, closes, if_pos rfl, other]
    exact ih plain.2

/-- The placeholder of a name in braces. -/
def placeholder (name : List Char) : List Char :=
  '{' :: name ++ ['}']

theorem closes_placeholder {name : List Char} (plain : '}' ∉ name) :
    closes false (placeholder name) :=
  closes_opened plain

/-- A placeholder for one segment becomes the encoded value. -/
theorem expandFrom_placeholder {name : List Char} (plain : '}' ∉ name)
    (single : name.getLast? ≠ some '+') {v : String}
    (bound : value? (String.ofList name) = some v) :
    expandFrom value? none (placeholder name) = percentChars unreserved v.toList := by
  have kept : keep false = unreserved := by
    funext c
    simp [keep]
  have filled : fill value? name = percentChars unreserved v.toList := by
    simp only [fill, splitGreedy, if_neg single, bound, kept]
  have ran : expandFrom value? (some []) (name ++ ['}']) = fill value? name ++ [] :=
    expandFrom_opened plain []
  rw [placeholder, List.cons_append, expandFrom, if_pos rfl, ran, List.append_nil, filled]

theorem expandFrom_joined {segments : List (List Char)}
    (closed : ∀ s ∈ segments, closes false s) (rest : List Char) :
    expandFrom value? none (joined segments ++ rest) =
      joined (segments.map (expandFrom value? none)) ++ expandFrom value? none rest := by
  induction segments with
  | nil => rfl
  | cons s segments ih =>
    obtain ⟨first, others⟩ := List.forall_mem_cons.mp closed
    have split : joined (s :: segments) ++ rest = '/' :: (s ++ (joined segments ++ rest)) := by
      simp [joined]
    have own : closes (none : Option (List Char)).isSome s := first
    rw [split, expandFrom_slash, expandFrom_append own, ih others]
    simp [joined]

end Expansion

end ServiceClient.Wire.Template
