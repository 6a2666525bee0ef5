import ServiceClient.Proofs.Text.Case

/-! Names in snake case, told character by character. A letter or digit stays, in lower case, a
capital that begins a word behind an underscore of its own; everything else is an underscore. -/

namespace ServiceClient.Text

/-- `c` is a capital behind a lower-case letter or digit, or the last capital of a run in front of a
lower-case letter. -/
structure BeginsWord (before : List Char) (c : Char) (after : List Char) : Prop where
  upper : c.isUpper
  behind : ∃ p ∈ before.getLast?,
    p.isLower ∨ p.isDigit ∨ p.isUpper ∧ ∃ n ∈ after.head?, n.isLower

/-- One piece for each character of the name. -/
structure SpeltBy (name : List Char) (pieces : List (List Char)) : Prop where
  length : pieces.length = name.length
  separator : ∀ before c after, name = before ++ c :: after → c.isAlphanum = false →
    pieces[before.length]? = some ['_']
  beginning : ∀ before c after, name = before ++ c :: after → BeginsWord before c after →
    pieces[before.length]? = some ['_', c.toLower]
  inner : ∀ before c after, name = before ++ c :: after → c.isAlphanum →
    ¬BeginsWord before c after → pieces[before.length]? = some [c.toLower]

/-- An underscore of the spelling between `front` and `back`: it stands for a character that is no
letter or digit, or in front of a letter that begins a word. -/
inductive Underscore (name : List Char) (pieces : List (List Char)) :
    List Char → List Char → Prop
  | separator {before : List Char} {c : Char} {after : List Char}
      (place : name = before ++ c :: after) (other : c.isAlphanum = false) :
      Underscore name pieces (pieces.take before.length).flatten
        (pieces.drop (before.length + 1)).flatten
  | inserted {before : List Char} {c : Char} {after : List Char}
      (place : name = before ++ c :: after) (begins : BeginsWord before c after)
      (behind : ∃ p ∈ (pieces.take before.length).flatten.getLast?, p ≠ '_')
      (ahead : c.toLower ≠ '_') :
      Underscore name pieces (pieces.take before.length).flatten
        (c.toLower :: (pieces.drop (before.length + 1)).flatten)

def snakePiece (before : Option Char) (c : Char) (after : List Char) : List Char :=
  if c.isAlphanum then
    if c.isUpper && startsWord before after then ['_', c.toLower] else [c.toLower]
  else ['_']

def snakePieces (before : Option Char) : List Char → List (List Char)
  | [] => []
  | c :: s => snakePiece before c s :: snakePieces (some c) s

theorem isAlphanum_of_isUpper {c : Char} (upper : c.isUpper) : c.isAlphanum := by
  simp [Char.isAlphanum, Char.isAlpha, upper]

theorem toLower_ne_underscore {c : Char} (kept : c.isAlphanum) : c.toLower ≠ '_' := by
  intro same
  rw [eq_of_toLower_eq same rfl] at kept
  cases kept

section Pieces
variable {before : Option Char} {c : Char} {s after : List Char}

theorem snakePiece_of_not_isAlphanum (other : c.isAlphanum = false) :
    snakePiece before c after = ['_'] := by
  simp [snakePiece, other]

theorem snakePiece_of_isAlphanum (kept : c.isAlphanum) :
    snakePiece before c after =
      (if c.isUpper && startsWord before after then ['_'] else []) ++ [c.toLower] := by
  rw [snakePiece, if_pos kept]
  split <;> rfl

theorem snakeFrom_cons : snakeFrom before (c :: s) =
    snakePiece before c s ++ snakeFrom (some c) s := by
  rw [snakeFrom]
  by_cases upper : c.isUpper
  · rw [if_pos upper, snakePiece_of_isAlphanum (isAlphanum_of_isUpper upper)]
    cases startsWord before s <;> simp [upper]
  · have same : c.toLower = c := Char.toLower_eq_of_not_isUpper upper
    rw [if_neg upper]
    by_cases kept : c.isAlphanum
    · rw [snakePiece_of_isAlphanum kept]
      simp [upper, kept, same]
    · rw [snakePiece_of_not_isAlphanum (Bool.eq_false_iff.mpr kept)]
      by_cases underscore : c = '_'
      · simp [underscore]
      · simp [kept, underscore]

theorem flatten_snakePieces (before : Option Char) (s : List Char) :
    (snakePieces before s).flatten = snakeFrom before s := by
  induction s generalizing before with
  | nil => rfl
  | cons c s ih => rw [snakePieces, List.flatten_cons, ih, snakeFrom_cons]

theorem length_snakePieces (before : Option Char) (s : List Char) :
    (snakePieces before s).length = s.length := by
  induction s generalizing before with
  | nil => rfl
  | cons c s ih => rw [snakePieces, List.length_cons, ih, List.length_cons]

theorem getElem?_snakePieces (first : Option Char) (before : List Char) (c : Char)
    (after : List Char) : (snakePieces first (before ++ c :: after))[before.length]? =
      some (snakePiece (before.getLast?.or first) c after) := by
  induction before generalizing first with
  | nil => rfl
  | cons d before ih =>
    have last : (d :: before).getLast?.or first = before.getLast?.or (some d) := by
      rw [List.getLast?_cons]
      cases before.getLast? <;> rfl
    rw [List.cons_append, snakePieces, List.length_cons, List.getElem?_cons_succ, ih, last]

end Pieces

section Spelling
variable {before after : List Char} {c : Char}

theorem beginsWord_iff :
    BeginsWord before c after ↔ (c.isUpper && startsWord before.getLast? after) := by
  have behind : (∃ p ∈ before.getLast?,
      p.isLower ∨ p.isDigit ∨ p.isUpper ∧ ∃ n ∈ after.head?, n.isLower) ↔
        startsWord before.getLast? after := by
    cases before.getLast? with
    | none => simp [startsWord]
    | some p => simp [startsWord, Option.any_eq_true, or_assoc]
  rw [Bool.and_eq_true, ← behind]
  exact ⟨fun begins => ⟨begins.upper, begins.behind⟩, fun ⟨upper, behind⟩ => ⟨upper, behind⟩⟩

theorem speltBy_snakePieces (name : List Char) : SpeltBy name (snakePieces none name) := by
  have piece : ∀ before c after, name = before ++ c :: after →
      (snakePieces none name)[before.length]? = some (snakePiece before.getLast? c after) := by
    rintro before c after rfl
    rw [getElem?_snakePieces, Option.or_none]
  refine ⟨length_snakePieces none name, ?separator, ?beginning, ?inner⟩
  case separator =>
    intro before c after place other
    rw [piece before c after place, snakePiece_of_not_isAlphanum other]
  case beginning =>
    intro before c after place begins
    rw [piece before c after place, snakePiece_of_isAlphanum (isAlphanum_of_isUpper begins.upper),
      if_pos (beginsWord_iff.mp begins)]
    rfl
  case inner =>
    intro before c after place kept within
    rw [piece before c after place, snakePiece_of_isAlphanum kept,
      if_neg fun begins => within (beginsWord_iff.mpr begins)]
    rfl

end Spelling

/-- Which piece an element of the whole stands in, and what is around it. -/
theorem exists_piece_of_flatten {α : Type} {a : α} {pieces : List (List α)} {front back : List α}
    (split : pieces.flatten = front ++ a :: back) : ∃ i x y, pieces[i]? = some (x ++ a :: y) ∧
      front = (pieces.take i).flatten ++ x ∧ back = y ++ (pieces.drop (i + 1)).flatten := by
  induction pieces generalizing front with
  | nil => simp at split
  | cons piece pieces ih =>
    rw [List.flatten_cons] at split
    have later : ∀ behind, front = piece ++ behind → pieces.flatten = behind ++ a :: back →
        ∃ i x y, (piece :: pieces)[i]? = some (x ++ a :: y) ∧
          front = ((piece :: pieces).take i).flatten ++ x ∧
          back = y ++ ((piece :: pieces).drop (i + 1)).flatten := by
      intro behind start rest
      obtain ⟨i, x, y, here, left, right⟩ := ih rest
      exact ⟨i + 1, x, y, here, by rw [start, left]; simp, right⟩
    rcases List.append_eq_append_iff.mp split with ⟨behind, start, rest⟩ | ⟨own, start, rest⟩
    · exact later behind start rest
    · cases own with
      | nil => exact later [] (by simpa using start.symm) (by simpa using rest.symm)
      | cons b y =>
        obtain ⟨rfl, rfl⟩ := List.cons.inj rest
        exact ⟨0, front, y, by rw [start]; rfl, by simp, by simp⟩

namespace SpeltBy
variable {name before after : List Char} {c : Char} {pieces : List (List Char)}

/-- The piece of a letter or digit ends with it. -/
theorem exists_piece (spelt : SpeltBy name pieces) (place : name = before ++ c :: after)
    (kept : c.isAlphanum) : ∃ x, pieces[before.length]? = some (x ++ [c.toLower]) ∧
      (x = [] ∨ x = ['_'] ∧ BeginsWord before c after) := by
  by_cases begins : BeginsWord before c after
  · exact ⟨['_'], spelt.beginning before c after place begins, .inr ⟨rfl, begins⟩⟩
  · exact ⟨[], spelt.inner before c after place kept begins, .inl rfl⟩

theorem getLast?_front (spelt : SpeltBy name pieces) (place : name = before ++ c :: after)
    (kept : c.isAlphanum) :
    (pieces.take (before.length + 1)).flatten.getLast? = some c.toLower := by
  obtain ⟨x, piece, -⟩ := spelt.exists_piece place kept
  rw [List.take_add_one, piece]
  simp

/-- Up to a letter that begins a word, the spelling does not end in an underscore. -/
theorem exists_behind (spelt : SpeltBy name pieces) (place : name = before ++ c :: after)
    (begins : BeginsWord before c after) :
    ∃ p ∈ (pieces.take before.length).flatten.getLast?, p ≠ '_' := by
  obtain ⟨p, last, kind⟩ := begins.behind
  obtain ⟨init, rfl⟩ := List.getLast?_eq_some_iff.mp last
  have own : p.isAlphanum := by
    rcases kind with lower | digit | ⟨upper, -⟩ <;> simp [Char.isAlphanum, Char.isAlpha, *]
  have place' : name = init ++ p :: (c :: after) := by simpa using place
  refine ⟨p.toLower, ?_, toLower_ne_underscore own⟩
  rw [List.length_append, List.length_singleton]
  exact spelt.getLast?_front place' own

/-- An underscore is the first character of its piece, with at most the letter of the piece behind
it. -/
theorem underscore_first (spelt : SpeltBy name pieces) (place : name = before ++ c :: after)
    {x y : List Char} (piece : pieces[before.length]? = some (x ++ '_' :: y)) : x = [] ∧
      (c.isAlphanum = false ∧ y = [] ∨
        c.isAlphanum ∧ BeginsWord before c after ∧ y = [c.toLower]) := by
  by_cases kept : c.isAlphanum
  · have lone : ∀ z, [c.toLower] ≠ z ++ '_' :: y := by
      intro z same
      have mem : '_' ∈ [c.toLower] := by simp [same]
      exact toLower_ne_underscore kept (List.mem_singleton.mp mem).symm
    obtain ⟨z, piece', origin⟩ := spelt.exists_piece place kept
    have same : z ++ [c.toLower] = x ++ '_' :: y := Option.some.inj (piece'.symm.trans piece)
    rcases origin with rfl | ⟨rfl, begins⟩
    · exact absurd same (lone x)
    · rcases List.cons_eq_append_iff.mp same with ⟨rfl, rest⟩ | ⟨z, -, rest⟩
      · exact ⟨rfl, .inr ⟨kept, begins, (List.cons.inj rest).2⟩⟩
      · exact absurd rest (lone z)
  · have dropped : c.isAlphanum = false := Bool.eq_false_iff.mpr kept
    have own := spelt.separator before c after place dropped
    have same : ['_'] = x ++ '_' :: y := Option.some.inj (own.symm.trans piece)
    rcases List.cons_eq_append_iff.mp same with ⟨rfl, rest⟩ | ⟨z, -, rest⟩
    · exact ⟨rfl, .inl ⟨dropped, (List.cons.inj rest).2⟩⟩
    · simp at rest

theorem underscore (spelt : SpeltBy name pieces) {front back : List Char}
    (split : pieces.flatten = front ++ '_' :: back) : Underscore name pieces front back := by
  obtain ⟨i, x, y, piece, rfl, rfl⟩ := exists_piece_of_flatten split
  obtain ⟨before, c, after, place, rfl⟩ :
      ∃ before c after, name = before ++ c :: after ∧ before.length = i := by
    have short : i < name.length := by
      rw [← spelt.length]
      exact (List.getElem?_eq_some_iff.mp piece).1
    refine ⟨name.take i, name[i], name.drop (i + 1), ?_, List.length_take_of_le short.le⟩
    rw [← List.drop_eq_getElem_cons, List.take_append_drop]
  obtain ⟨rfl, ⟨other, rfl⟩ | ⟨kept, begins, rfl⟩⟩ := spelt.underscore_first place piece
  · rw [List.append_nil]
    exact .separator place other
  · rw [List.append_nil]
    exact .inserted place begins (spelt.exists_behind place begins) (toLower_ne_underscore kept)

end SpeltBy

/-- Without its underscores the spelling is the letters and digits in lower case. -/
theorem filter_snakeFrom (before : Option Char) (s : List Char) :
    (snakeFrom before s).filter (· ≠ '_') = (s.filter Char.isAlphanum).map Char.toLower := by
  induction s generalizing before with
  | nil => rfl
  | cons c s ih =>
    rw [snakeFrom_cons, List.filter_append, ih]
    by_cases kept : c.isAlphanum
    · have other := toLower_ne_underscore kept
      rw [snakePiece_of_isAlphanum kept, List.filter_cons_of_pos kept]
      split <;> simp [other]
    · rw [snakePiece_of_not_isAlphanum (Bool.eq_false_iff.mpr kept), List.filter_cons_of_neg kept]
      rfl

theorem snakeFrom_eq_self (before : Option Char) {s : List Char}
    (snake : ∀ c ∈ s, c.isLower ∨ c.isDigit ∨ c = '_') : snakeFrom before s = s := by
  induction s generalizing before with
  | nil => rfl
  | cons c s ih =>
    obtain ⟨own, rest⟩ := List.forall_mem_cons.mp snake
    have small : ¬c.isUpper := by
      rcases own with lower | digit | rfl
      · exact Char.not_isUpper_of_isLower lower
      · intro upper
        simp only [Char.isDigit_iff_toNat, Char.isUpper, decide_eq_true_eq,
          UInt32.le_iff_toNat_le] at digit upper
        have bound : 'A'.toNat ≤ c.toNat := upper.1
        have high : '9'.toNat < 'A'.toNat := by decide
        omega
      · decide
    have kept : c.isAlphanum || c == '_' := by
      rcases own with lower | digit | rfl
      · simp [Char.isAlphanum, Char.isAlpha, lower]
      · simp [Char.isAlphanum, digit]
      · rfl
    rw [snakeFrom, if_neg small, if_pos kept, ih _ rest]

/-- Snake case keeps letters and digits, in lower case and in order; each underscore stands for a
character of the name or in front of a letter that begins a word. Names in snake case stay as they
are. -/
theorem snakeCase_spelling (name : String) :
    (∀ c ∈ (snakeCase name).toList, c.isLower ∨ c.isDigit ∨ c = '_') ∧
      (snakeCase name).toList.filter (· ≠ '_') =
        (name.toList.filter Char.isAlphanum).map Char.toLower ∧
      (∃ pieces, SpeltBy name.toList pieces ∧ (snakeCase name).toList = pieces.flatten ∧
        ∀ front back, (snakeCase name).toList = front ++ '_' :: back →
          Underscore name.toList pieces front back) ∧
      ((∀ c ∈ name.toList, c.isLower ∨ c.isDigit ∨ c = '_') → snakeCase name = name) ∧
      snakeCase (snakeCase name) = snakeCase name := by
  have chars : (snakeCase name).toList = snakeFrom none name.toList := by
    rw [snakeCase, String.toList_ofList]
  have whole : (snakeCase name).toList = (snakePieces none name.toList).flatten := by
    rw [chars, flatten_snakePieces]
  have spelt := speltBy_snakePieces name.toList
  have unchanged : ∀ s : String, (∀ c ∈ s.toList, c.isLower ∨ c.isDigit ∨ c = '_') →
      snakeCase s = s := by
    intro s snake
    rw [snakeCase, snakeFrom_eq_self none snake, String.ofList_toList]
  have snake : ∀ c ∈ (snakeCase name).toList, c.isLower ∨ c.isDigit ∨ c = '_' := by
    intro c mem
    rw [chars] at mem
    exact mem_snakeFrom mem
  refine ⟨snake, ?_, ⟨_, spelt, whole, ?_⟩, unchanged name, unchanged _ snake⟩
  · rw [chars, filter_snakeFrom]
  · intro front back split
    exact spelt.underscore (whole.symm.trans split)

end ServiceClient.Text
