import ServiceClient.Proofs.Json.Tokens
import ServiceClient.Proofs.Json.Written

/-! What is read as a value stands in the text as one: a reader that meets no fault has gone through
a text of the grammar. -/

namespace ServiceClient.Json
open ServiceClient.Sequence Value

section Written
variable {depth : Nat} {v : Value}

theorem written_broken (fault : Fault) : written depth (.broken fault) ≠ .ok v := by
  rw [written]
  exact nofun

theorem written_number {l : Literal} :
    written depth (.number l) = .ok v ↔ ∃ n, Numeral.ofLiteral l = .ok n ∧ v = .number n := by
  rw [written]
  cases Numeral.ofLiteral l <;> simp [Except.mapError, bind, Except.bind, eq_comm]

theorem written_string {s : Spelling} :
    written depth (.string s) = .ok v ↔ ∃ text, s = .ok text ∧ v = .string text := by
  rw [written, spelled]
  cases s <;> simp [Except.mapError, bind, Except.bind, eq_comm]

theorem written_array {items : List Tree} {close : Option Fault} :
    written depth (.array items close) = .ok v ↔ ∃ d values, depth = d + 1 ∧
      writtenItems d items = .ok values ∧ close = none ∧ v = .array values := by
  cases depth with
  | zero => simp [written, bind, Except.bind]
  | succ d =>
    rw [written, if_neg (Nat.succ_ne_zero d)]
    cases made : writtenItems d items <;> cases close <;>
      simp [made, closed, bind, Except.bind, eq_comm]

theorem written_object {entries : List (Spelling × Tree)} {close : Option Fault} :
    written depth (.object entries close) = .ok v ↔ ∃ d values, depth = d + 1 ∧
      writtenEntries d entries = .ok values ∧ close = none ∧ v = .object values := by
  cases depth with
  | zero => simp [written, bind, Except.bind]
  | succ d =>
    rw [written, if_neg (Nat.succ_ne_zero d)]
    cases made : writtenEntries d entries <;> cases close <;>
      simp [made, closed, bind, Except.bind, eq_comm]

end Written

/-! Values that are neither lists nor objects -/

section Leaf
variable {depth : Nat} {s rest : List UInt8} {t : Tree} {v : Value}

theorem wordTree_append (word : String) (tree : Tree) (rest : List UInt8) :
    wordTree word tree (Text.utf8 word ++ rest) = (tree, rest) := by
  rw [wordTree, afterWord_eq_ok.mpr rfl]

theorem leafText_of_wordTree {word : String} {tree : Tree} {w : Value}
    (stands : written depth tree = .ok w) (text : ∀ rest, LeafText (Text.utf8 word ++ rest) w rest)
    (found : wordTree word tree s = (t, rest)) (read : written depth t = .ok v) :
    LeafText s v rest := by
  unfold wordTree at found
  split at found
  · rename_i met
    cases found
    cases stands.symm.trans read
    exact afterWord_eq_ok.mp met ▸ text rest
  · cases found
    cases written_broken _ read

theorem leafText_of_leaf (found : leaf s = (t, rest)) (read : written depth t = .ok v) :
    LeafText s v rest := by
  cases s with
  | nil =>
    cases found
    cases written_broken _ read
  | cons b s =>
    -- The first byte tells what stands here, as in `leaf`.
    rw [leaf] at found
    split at found
    · exact leafText_of_wordTree (by rw [written]) .null found read
    split at found
    · exact leafText_of_wordTree (by rw [written]) (.bool true) found read
    split at found
    · exact leafText_of_wordTree (by rw [written]) (.bool false) found read
    split at found
    · rename_i quote
      rw [beq_iff_eq] at quote
      split at found
      · rename_i spelt
        cases found
        obtain ⟨text, rfl, rfl⟩ := written_string.mp read
        exact quote ▸ .string (.quoted (spelling_eq_ok.mp spelt))
      · cases found
        cases written_broken _ read
    split at found
    · split at found
      · rename_i number
        cases found
        obtain ⟨n, value, rfl⟩ := written_number.mp read
        exact .number (numberText_of_literal number) value
      · cases found
        cases written_broken _ read
    · cases found
      cases written_broken _ read

theorem leaf_of_literal {b : UInt8} {l : Literal} (first : b = 0x2D ∨ isDigit b)
    (read : literal (b :: s) = .ok (l, rest)) : leaf (b :: s) = (.number l, rest) := by
  have number : (b == 0x2D || isDigit b) = true := by simpa using first
  have apart : b ≠ 0x6E ∧ b ≠ 0x74 ∧ b ≠ 0x66 ∧ b ≠ 0x22 := by
    refine ⟨?_, ?_, ?_, ?_⟩ <;> rintro rfl <;> cases number
  simp [leaf, apart, number, read]

theorem LeafText.exists_leaf (text : LeafText s v rest) (ends : Ends rest) :
    ∃ t, leaf s = (t, rest) ∧ written depth t = .ok v := by
  cases text with
  | null => exact ⟨.null, wordTree_append "null" .null rest, by rw [written]⟩
  | bool b =>
    refine ⟨.bool b, ?_, by rw [written]⟩
    cases b
    · exact wordTree_append "false" (.bool false) rest
    · exact wordTree_append "true" (.bool true) rest
  | @number _ _ l n text value =>
    obtain ⟨b, s, rfl, first⟩ := text.exists_head
    exact ⟨.number l, leaf_of_literal first (text.literal_eq ends),
      written_number.mpr ⟨n, value, rfl⟩⟩
  | @string _ _ text quoted =>
    obtain ⟨spelt⟩ := quoted
    refine ⟨.string (.ok text), ?_, written_string.mpr ⟨text, rfl, rfl⟩⟩
    simp [leaf, spelling_eq_ok.mpr spelt]

end Leaf

/-! Lists and objects -/

section Next
variable {close : UInt8} {s rest : List UInt8}

theorem next_eq_ok (other : close ≠ 0x2C) :
    next close s = .ok rest ↔ ∃ t, Spaces s (0x2C :: t) ∧ rest = skipSpace t := by
  constructor
  · intro read
    have spaces := spaces_skipSpace s
    rw [next] at read
    split at read
    · cases read
    · rename_i b t found
      split at read
      · cases read
      split at read
      · rename_i comma
        cases read
        rw [beq_iff_eq] at comma
        exact ⟨t, comma ▸ found ▸ spaces, rfl⟩
      · cases read
  · rintro ⟨t, spaces, rfl⟩
    rw [next, spaces.skipSpace_eq, skipSpace_cons rfl]
    simp [Ne.symm other]

theorem next_eq_closed (plain : isSpace close = false) :
    next close s = .error (none, rest) ↔ Spaces s (close :: rest) := by
  constructor
  · intro read
    have spaces := spaces_skipSpace s
    rw [next] at read
    split at read
    · cases read
    · rename_i b t found
      split at read
      · rename_i same
        cases read
        rw [beq_iff_eq] at same
        exact same ▸ found ▸ spaces
      split at read <;> cases read
  · intro spaces
    rw [next, spaces.skipSpace_eq, skipSpace_cons plain]
    simp

theorem key_eq_ok {name : String} :
    key s = .ok (.ok name, .ok rest) ↔
      ∃ t u, QuotedText s name t ∧ Spaces t (0x3A :: u) ∧ rest = skipSpace u := by
  constructor
  · intro read
    unfold key at read
    split at read
    · cases read
    · split at read
      · rename_i quote
        rw [beq_iff_eq] at quote
        subst quote
        obtain ⟨⟨text, t⟩, spelt, read⟩ := bind_eq_ok.mp read
        have spaces := spaces_skipSpace t
        dsimp only at read
        split at read
        · cases read
        · rename_i c u found
          split at read
          · rename_i colon
            cases read
            rw [beq_iff_eq] at colon
            exact ⟨t, u, .quoted (spelling_eq_ok.mp spelt), colon ▸ found ▸ spaces, rfl⟩
          · cases read
      · cases read
  · rintro ⟨t, u, ⟨spelt⟩, spaces, rfl⟩
    rw [key, spelling_eq_ok.mpr spelt]
    simp only [bind, Except.bind, beq_self_eq_true, if_true, spaces.skipSpace_eq]
    rw [skipSpace_cons rfl]
    rfl

end Next

section WrittenLists
variable {depth : Nat}

theorem writtenItems_cons {t : Tree} {rest : List Tree} {values : List Value} :
    writtenItems depth (t :: rest) = .ok values ↔ ∃ v vs, written depth t = .ok v ∧
      writtenItems depth rest = .ok vs ∧ values = v :: vs := by
  rw [writtenItems]
  cases written depth t <;> cases writtenItems depth rest <;> simp [bind, Except.bind, eq_comm]

theorem writtenEntries_cons {key : Spelling} {t : Tree} {rest : List (Spelling × Tree)}
    {values : List (String × Value)} :
    writtenEntries depth ((key, t) :: rest) = .ok values ↔ ∃ name v vs, key = .ok name ∧
      written depth t = .ok v ∧ writtenEntries depth rest = .ok vs ∧ values = (name, v) :: vs := by
  rw [writtenEntries, spelled]
  cases key <;> cases written depth t <;> cases writtenEntries depth rest <;>
    simp [Except.mapError, bind, Except.bind, eq_comm]

end WrittenLists

mutual

/-- What is read as a value writes that value. -/
theorem valueText_of_treeAt : (steps : Nat) → {depth : Nat} → {s rest : List UInt8} → {t : Tree} →
    {v : Value} → treeAt steps s = (t, rest) → written depth t = .ok v → ValueText depth s v rest
  | 0, _, _, _, _, _, found, read => by
    cases found
    cases written_broken _ read
  | steps + 1, depth, s, rest, t, v, found, read => by
    rw [treeAt.eq_def] at found
    dsimp only at found
    split at found
    · cases ‹_ = 0›
    · cases ‹_ = _ + 1›
      rename_i s
      have spaces := spaces_skipSpace s
      split at found
      · cases found
        obtain ⟨_, _, _, _, ⟨⟩, _⟩ := written_array.mp read
      · rename_i closed
        cases found
        obtain ⟨d, values, rfl, made, -, rfl⟩ := written_array.mp read
        cases made
        exact .array (.empty (closed ▸ spaces))
      · cases elements : elementsAt steps (skipSpace s) with
        | mk items others =>
          obtain ⟨close, rest⟩ := others
          rw [elements] at found
          cases found
          obtain ⟨d, values, rfl, made, rfl, rfl⟩ := written_array.mp read
          exact .array (.filled spaces (items_of_elementsAt steps elements made))
    · cases ‹_ = _ + 1›
      rename_i s
      have spaces := spaces_skipSpace s
      split at found
      · cases found
        obtain ⟨_, _, _, _, ⟨⟩, _⟩ := written_object.mp read
      · rename_i closed
        cases found
        obtain ⟨d, values, rfl, made, -, rfl⟩ := written_object.mp read
        cases made
        exact .object (.empty (closed ▸ spaces))
      · cases members : membersAt steps (skipSpace s) with
        | mk entries others =>
          obtain ⟨close, rest⟩ := others
          rw [members] at found
          cases found
          obtain ⟨d, values, rfl, made, rfl, rfl⟩ := written_object.mp read
          exact .object (.filled spaces (entries_of_membersAt steps members made))
    · have text := leafText_of_leaf found read
      cases depth with
      | zero => exact text
      | succ depth => exact .leaf text

theorem items_of_elementsAt : (steps : Nat) → {depth : Nat} → {s rest : List UInt8} →
    {items : List Tree} → {values : List Value} → elementsAt steps s = (items, none, rest) →
    writtenItems depth items = .ok values → Separated (ValueText depth) 0x5D s values rest
  | 0, _, _, _, _, _, found, read => by
    cases found
    obtain ⟨_, _, read, -⟩ := writtenItems_cons.mp read
    cases written_broken _ read
  | steps + 1, depth, s, rest, items, values, found, read => by
    rw [elementsAt] at found
    cases first : treeAt steps s with
    | mk item t =>
      rw [first] at found
      dsimp only at found
      split at found
      · rename_i behind
        cases found
        obtain ⟨v, _, made, none, rfl⟩ := writtenItems_cons.mp read
        cases none
        exact .last (valueText_of_treeAt steps first made) ((next_eq_closed rfl).mp behind)
      · rename_i u behind
        cases later : elementsAt steps u with
        | mk others ends =>
          obtain ⟨close, rest'⟩ := ends
          rw [later] at found
          cases found
          obtain ⟨v, vs, made, more, rfl⟩ := writtenItems_cons.mp read
          obtain ⟨w, comma, rfl⟩ := (next_eq_ok (by decide)).mp behind
          exact .more (valueText_of_treeAt steps first made) comma (spaces_skipSpace w)
            (items_of_elementsAt steps later more)

theorem entries_of_membersAt : (steps : Nat) → {depth : Nat} → {s rest : List UInt8} →
    {entries : List (Spelling × Tree)} → {values : List (String × Value)} →
    membersAt steps s = (entries, none, rest) → writtenEntries depth entries = .ok values →
    Separated (MemberText (ValueText depth)) 0x7D s values rest
  | 0, _, _, _, _, _, found, read => by cases found
  | steps + 1, depth, s, rest, entries, values, found, read => by
    rw [membersAt] at found
    split at found
    · cases found
    · cases found
      obtain ⟨_, _, _, _, made, -⟩ := writtenEntries_cons.mp read
      cases written_broken _ made
    · rename_i name u head
      cases first : treeAt steps u with
      | mk value t =>
        rw [first] at found
        dsimp only at found
        split at found
        · rename_i behind
          cases found
          obtain ⟨name, v, _, rfl, made, none, rfl⟩ := writtenEntries_cons.mp read
          cases none
          obtain ⟨w, x, key, colon, rfl⟩ := key_eq_ok.mp head
          exact .last (.named key colon (spaces_skipSpace x) (valueText_of_treeAt steps first made))
            ((next_eq_closed rfl).mp behind)
        · rename_i y behind
          cases later : membersAt steps y with
          | mk others ends =>
            obtain ⟨close, rest'⟩ := ends
            rw [later] at found
            cases found
            obtain ⟨name, v, vs, rfl, made, more, rfl⟩ := writtenEntries_cons.mp read
            obtain ⟨w, x, key, colon, rfl⟩ := key_eq_ok.mp head
            obtain ⟨z, comma, rfl⟩ := (next_eq_ok (by decide)).mp behind
            exact .more
              (.named key colon (spaces_skipSpace x) (valueText_of_treeAt steps first made)) comma
              (spaces_skipSpace z) (entries_of_membersAt steps later more)

end

end ServiceClient.Json
