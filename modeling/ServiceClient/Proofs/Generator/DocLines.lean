import ServiceClient.Proofs.Generator.DocTags
import ServiceClient.Proofs.Text.Entity

/-! Documentation lines are in normal form, whatever the fragment, and hold the words of its text,
each once and in order. -/

namespace ServiceClient.Generator.Docs
open ServiceClient.Text

/-- Lines of words, each with one space before it, and single blank lines between them. -/
structure Normal (lines : List String) : Prop where
  first : ∀ line ∈ lines.head?, line ≠ ""
  last : ∀ line ∈ lines.getLast?, line ≠ ""
  apart : lines.IsChain fun line next => line ≠ "" ∨ next ≠ ""
  filled : ∀ line ∈ lines, line ≠ "" →
    ∃ ws, ws ≠ [] ∧ (∀ w ∈ ws, IsWord w) ∧ line.toList = ws.flatMap (' ' :: ·)

theorem toList_lineText (ws : List (List Char)) :
    (lineText ws).toList = ws.flatMap (' ' :: ·) := by
  rw [lineText, String.toList_ofList]

theorem lineText_ne_empty {ws : List (List Char)} (some : ws ≠ []) : lineText ws ≠ "" := by
  intro same
  obtain ⟨w, ws, rfl⟩ := List.exists_cons_of_ne_nil some
  have chars := congrArg String.toList same
  rw [toList_lineText] at chars
  cases chars

section Collapse
variable (behindText : Bool) (parts : List (List (List Char)))

theorem collapse_ne_nil {parts : List (List (List Char))} (some : parts.any (!·.isEmpty)) :
    collapse behindText parts ≠ [] := by
  fun_induction collapse behindText parts with
  | case1 => cases some
  | case2 => exact List.cons_ne_nil _ _
  | case3 => exact List.cons_ne_nil _ _
  | case4 _ ws rest blank _ ih =>
    rw [List.any_cons, Bool.or_eq_true] at some
    exact ih (some.resolve_left blank)

theorem head_collapse : ∀ line ∈ (collapse false parts).head?, line ≠ "" := by
  induction parts with
  | nil => exact nofun
  | cons ws rest ih =>
    rw [collapse]
    cases ws with
    | nil => exact ih
    | cons w ws =>
      rintro _ ⟨⟩
      exact lineText_ne_empty (List.cons_ne_nil w ws)

theorem getLast_collapse : ∀ line ∈ (collapse behindText parts).getLast?, line ≠ "" := by
  fun_induction collapse behindText parts with
  | case1 => exact nofun
  | case2 _ ws rest filled ih =>
    rw [List.getLast?_cons]
    rintro _ ⟨⟩
    cases last : (collapse true rest).getLast? with
    | none => exact lineText_ne_empty (by simpa using filled)
    | some line => exact ih line last
  | case3 _ ws rest _ between ih =>
    rw [List.getLast?_cons]
    rintro _ ⟨⟩
    obtain ⟨-, more⟩ := Bool.and_eq_true_iff.mp between
    cases last : (collapse false rest).getLast? with
    | none => exact absurd (List.getLast?_eq_none_iff.mp last) (collapse_ne_nil false more)
    | some line => exact ih line last
  | case4 _ _ _ _ _ ih => exact ih

theorem isChain_collapse :
    (collapse behindText parts).IsChain fun line next => line ≠ "" ∨ next ≠ "" := by
  fun_induction collapse behindText parts with
  | case1 => exact .nil
  | case2 _ ws rest filled ih =>
    have own : lineText ws ≠ "" := lineText_ne_empty (by simpa using filled)
    exact List.isChain_cons.mpr ⟨fun _ _ => .inl own, ih⟩
  | case3 _ _ rest _ _ ih =>
    exact List.isChain_cons.mpr ⟨fun next mem => .inr (head_collapse rest next mem), ih⟩
  | case4 _ _ _ _ _ ih => exact ih

theorem mem_collapse {line : String} (mem : line ∈ collapse behindText parts) :
    line = "" ∨ ∃ ws ∈ parts, ws ≠ [] ∧ line = lineText ws := by
  fun_induction collapse behindText parts with
  | case1 => cases mem
  | case2 _ ws rest filled ih =>
    rcases List.mem_cons.mp mem with rfl | mem
    · exact .inr ⟨ws, List.mem_cons_self, by simpa using filled, rfl⟩
    · exact (ih mem).imp_right fun ⟨own, here, same⟩ => ⟨own, List.mem_cons_of_mem _ here, same⟩
  | case3 _ ws rest _ _ ih =>
    rcases List.mem_cons.mp mem with rfl | mem
    · exact .inl rfl
    · exact (ih mem).imp_right fun ⟨own, here, same⟩ => ⟨own, List.mem_cons_of_mem _ here, same⟩
  | case4 _ ws rest _ _ ih =>
    exact (ih mem).imp_right fun ⟨own, here, same⟩ => ⟨own, List.mem_cons_of_mem _ here, same⟩

variable {parts}

theorem normal_collapse (each : ∀ ws ∈ parts, ∀ w ∈ ws, IsWord w) :
    Normal (collapse false parts) where
  first := head_collapse parts
  last := getLast_collapse false parts
  apart := isChain_collapse false parts
  filled line mem some := by
    obtain blank | ⟨ws, here, filled, rfl⟩ := mem_collapse false parts mem
    · exact absurd blank some
    · exact ⟨ws, filled, each ws here, toList_lineText ws⟩

/-- A line is dropped only if it is blank. -/
theorem flatMap_words_collapse (each : ∀ ws ∈ parts, ∀ w ∈ ws, IsWord w) :
    (collapse behindText parts).flatMap (fun line => words line.toList) = parts.flatten := by
  fun_induction collapse behindText parts with
  | case1 => rfl
  | case2 _ ws rest filled ih =>
    obtain ⟨own, others⟩ := List.forall_mem_cons.mp each
    rw [List.flatMap_cons, ih others, toList_lineText, words_spaced own, List.flatten_cons]
  | case3 _ ws rest blank _ ih =>
    have empty : ws = [] := by simpa using blank
    rw [List.flatMap_cons, ih (List.forall_mem_cons.mp each).2, empty]
    rfl
  | case4 _ ws rest blank _ ih =>
    have empty : ws = [] := by simpa using blank
    rw [ih (List.forall_mem_cons.mp each).2, empty]
    rfl

end Collapse

/-- The lines are in normal form, and their words, in order, are those of the one text that breaks,
tags and references leave of the fragment. Before references are decoded, no tag is left. -/
theorem lines_hold_words (html : String) :
    ∃ broken stripped text wordsOf,
      (∀ s, Broken html.toList s ↔ broken = s) ∧ (∀ s, Stripped broken s ↔ stripped = s) ∧
      (∀ s, Entity.Decoded stripped s ↔ text = s) ∧
      (stripped.Pairwise fun c d => c = '<' → d ≠ '>') ∧ Normal (lines html) ∧
      List.Forall₂ (fun line ws => Runs isBlank line.toList ws) (lines html) wordsOf ∧
      Runs isBlank text wordsOf.flatten := by
  have each : ∀ ws ∈ (linesOf (plainText html.toList)).map words, ∀ w ∈ ws, IsWord w := by
    intro ws mem w here
    obtain ⟨line, -, rfl⟩ := List.mem_map.mp mem
    exact mem_splitRuns here
  refine ⟨_, _, plainText html.toList, (lines html).map fun line => words line.toList,
    fun _ => breakLines_eq_iff.symm, fun _ => dropTags_eq_iff.symm,
    fun _ => Entity.decode_eq_iff.symm, (dropTags_eq_iff.mp rfl).pairwise, normal_collapse each,
    ?_, ?_⟩
  · rw [List.forall₂_map_right_iff, List.forall₂_same]
    exact fun line _ => runs_splitRuns isBlank line.toList
  · rw [← List.flatMap_def, lines, flatMap_words_collapse false each, ← List.flatMap_def,
      flatMap_words_linesOf]
    exact runs_splitRuns isBlank _

end ServiceClient.Generator.Docs
