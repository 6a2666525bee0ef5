import ServiceClient.Generator.Docs
import ServiceClient.Proofs.Text.Case
import ServiceClient.Proofs.Text.Entity

/-! The tags of a fragment. Those that end a line, in either case, become line feeds, from left to
right. What then stands from an opening bracket up to the next closing one goes, and with it every
opening bracket before a closing one. -/

namespace ServiceClient.Generator.Docs
open ServiceClient.Text

/-! Tags that end a line -/

/-- A tag that ends a line, in either case: of a paragraph, a list item or a list, or of a break. -/
inductive BreakTag : List Char → Prop
  | closing {tag : List Char} {name : String} (mem : name ∈ ["</p>", "</li>", "</ul>", "</ol>"])
      (same : tag.map Char.toLower = name.toList) : BreakTag tag
  | lineBreak {name blanks slash : List Char} (same : name.map Char.toLower = "<br".toList)
      (blank : ∀ c ∈ blanks, isBlank c) (slash_ok : slash = [] ∨ slash = ['/']) :
      BreakTag (name ++ blanks ++ slash ++ ['>'])

/-- A fragment and what it is with two line feeds in place of each tag that ends a line. -/
inductive Broken : List Char → List Char → Prop
  | nil : Broken [] []
  | tag {tag s t : List Char} (here : BreakTag tag) (rest : Broken s t) :
      Broken (tag ++ s) ('\n' :: '\n' :: t)
  | other {c : Char} {s t : List Char} (none : ∀ tag rest, c :: s = tag ++ rest → ¬BreakTag tag)
      (rest : Broken s t) : Broken (c :: s) (c :: t)

theorem literalTag_eq_some_iff {name s : List Char} {n : Nat} :
    literalTag name s = some n ↔
      ∃ tag rest, s = tag ++ rest ∧ tag.map Char.toLower = name ∧ n = tag.length := by
  rw [literalTag]
  constructor
  · intro found
    obtain ⟨same, ⟨⟩⟩ := Option.ite_none_right_eq_some.mp found
    have same := eq_of_beq same
    refine ⟨_, s.drop name.length, (List.take_append_drop ..).symm, same, ?_⟩
    rw [← @List.length_map _ _ (s.take name.length) Char.toLower, same]
  · rintro ⟨tag, rest, rfl, rfl, rfl⟩
    simp

theorem BreakTag.exists_body {tag : List Char} (here : BreakTag tag) :
    ∃ body, tag = body ++ ['>'] ∧ '>' ∉ body := by
  cases here with
  | @closing _ name mem same =>
    have ends : ∃ body, name.toList = body ++ ['>'] ∧ '>' ∉ body := by
      simp only [List.mem_cons, List.not_mem_nil, or_false] at mem
      rcases mem with rfl | rfl | rfl | rfl
      · exact ⟨"</p".toList, by decide, by decide⟩
      · exact ⟨"</li".toList, by decide, by decide⟩
      · exact ⟨"</ul".toList, by decide, by decide⟩
      · exact ⟨"</ol".toList, by decide, by decide⟩
    obtain ⟨lower, whole, free⟩ := ends
    rw [whole] at same
    obtain ⟨body, last, rfl, rfl, close⟩ := List.map_eq_append_iff.mp same
    obtain ⟨c, none, rfl, close, empty⟩ := List.map_eq_cons_iff.mp close
    rw [List.map_eq_nil_iff.mp empty, eq_of_toLower_eq close rfl]
    exact ⟨body, rfl, fun mem => free (List.mem_map_of_mem mem)⟩
  | @lineBreak name blanks slash same blank slash_ok =>
    refine ⟨name ++ blanks ++ slash, rfl, ?_⟩
    simp only [List.mem_append, not_or]
    refine ⟨⟨fun mem => ?_, fun mem => ?_⟩, ?_⟩
    · have lowered : Char.toLower '>' ∈ "<br".toList := same ▸ List.mem_map_of_mem mem
      exact absurd lowered (by decide)
    · exact absurd (blank _ mem) (by decide)
    · rcases slash_ok with rfl | rfl <;> decide

/-- A tag ends with the first closing bracket, so no other starts at its place. -/
theorem BreakTag.eq_of_append_eq {tag other s t : List Char} (here : BreakTag tag)
    (there : BreakTag other) (same : tag ++ s = other ++ t) : tag = other := by
  obtain ⟨body, rfl, free⟩ := here.exists_body
  obtain ⟨body', rfl, free'⟩ := there.exists_body
  have cut : ∀ {body : List Char} (rest : List Char), '>' ∉ body →
      (body ++ ['>'] ++ rest).takeWhile (· != '>') = body := by
    intro body rest free
    rw [List.append_assoc, List.takeWhile_append_of_pos]
    · simp
    · exact fun c mem => bne_iff_ne.mpr fun same => free (same ▸ mem)
  rw [← cut s free, same, cut t free']

theorem exists_of_lineBreak {s : List Char} {n : Nat} (found : lineBreak s = some n) :
    ∃ tag rest, BreakTag tag ∧ s = tag ++ rest ∧ n = tag.length := by
  obtain ⟨_, named, ends⟩ := Option.bind_eq_some_iff.mp found
  obtain ⟨name, after, rfl, same, rfl⟩ := literalTag_eq_some_iff.mp named
  rw [List.drop_left] at ends
  dsimp only at ends
  have blank : ∀ c ∈ after.takeWhile isBlank, isBlank c :=
    List.all_eq_true.mp List.all_takeWhile
  have whole : after.takeWhile isBlank ++ after.dropWhile isBlank = after :=
    List.takeWhile_append_dropWhile
  generalize after.takeWhile isBlank = blanks at ends blank whole
  generalize after.dropWhile isBlank = rest at whole
  subst whole
  rw [List.drop_left] at ends
  split at ends
  · rename_i rest
    cases ends
    exact ⟨_, rest, .lineBreak same blank (.inl rfl), by simp, by simp [Nat.add_assoc]⟩
  · rename_i rest
    cases ends
    exact ⟨_, rest, .lineBreak same blank (.inr rfl), by simp, by simp [Nat.add_assoc]⟩
  · cases ends

theorem lineBreak_isSome {name blanks slash : List Char}
    (same : name.map Char.toLower = "<br".toList) (blank : ∀ c ∈ blanks, isBlank c)
    (slash_ok : slash = [] ∨ slash = ['/']) (rest : List Char) :
    (lineBreak (name ++ blanks ++ slash ++ ['>'] ++ rest)).isSome := by
  have named : literalTag "<br".toList (name ++ (blanks ++ (slash ++ '>' :: rest))) =
      some name.length :=
    literalTag_eq_some_iff.mpr ⟨name, _, rfl, same, rfl⟩
  have taken : (blanks ++ (slash ++ '>' :: rest)).takeWhile isBlank = blanks := by
    rw [List.takeWhile_append_of_pos blank]
    rcases slash_ok with rfl | rfl <;> simp [isBlank]
  have whole : name ++ blanks ++ slash ++ ['>'] ++ rest =
      name ++ (blanks ++ (slash ++ '>' :: rest)) := by simp
  rw [whole, lineBreak, named]
  dsimp only [Option.bind_eq_bind, Option.bind_some]
  rw [List.drop_left, taken, List.drop_left]
  rcases slash_ok with rfl | rfl <;> rfl

theorem breakLength_isSome {tag : List Char} (here : BreakTag tag) (rest : List Char) :
    (breakLength (tag ++ rest)).isSome := by
  rw [breakLength, Option.isSome_or]
  cases here with
  | @closing _ name mem same =>
    have found : literalTag name.toList (tag ++ rest) = some tag.length :=
      literalTag_eq_some_iff.mpr ⟨tag, rest, rfl, same, rfl⟩
    rw [List.findSome?_isSome_iff.mpr ⟨name, mem, by rw [found]; rfl⟩]
    rfl
  | lineBreak same blank slash_ok => rw [lineBreak_isSome same blank slash_ok, Bool.or_true]

theorem exists_of_breakLength {s : List Char} {n : Nat} (found : breakLength s = some n) :
    ∃ tag rest, BreakTag tag ∧ s = tag ++ rest ∧ n = tag.length := by
  rcases Option.or_eq_some_iff.mp found with found | ⟨-, found⟩
  · obtain ⟨name, mem, found⟩ := List.exists_of_findSome?_eq_some found
    obtain ⟨tag, rest, whole, same, length⟩ := literalTag_eq_some_iff.mp found
    exact ⟨tag, rest, .closing mem same, whole, length⟩
  · exact exists_of_lineBreak found

theorem breakLength_append {tag : List Char} (here : BreakTag tag) (rest : List Char) :
    breakLength (tag ++ rest) = some tag.length := by
  obtain ⟨n, found⟩ := Option.isSome_iff_exists.mp (breakLength_isSome here rest)
  obtain ⟨other, after, there, same, rfl⟩ := exists_of_breakLength found
  rw [found, here.eq_of_append_eq there same]

theorem breakLines_drop (n : Nat) (s : List Char) : breakLines n s = breakLines 0 (s.drop n) := by
  induction s generalizing n with
  | nil => rw [List.drop_nil, breakLines, breakLines]
  | cons c s ih =>
    cases n with
    | zero => rfl
    | succ n => rw [breakLines, ih, List.drop_succ_cons]

theorem breakLines_tag {tag : List Char} (here : BreakTag tag) (s : List Char) :
    breakLines 0 (tag ++ s) = '\n' :: '\n' :: breakLines 0 s := by
  have found := breakLength_append here s
  cases tag with
  | nil =>
    obtain ⟨body, none, -⟩ := here.exists_body
    exact absurd none (by simp)
  | cons c tag =>
    rw [List.cons_append] at found ⊢
    rw [breakLines, found]
    dsimp only
    rw [breakLines_drop, List.length_cons, Nat.add_sub_cancel, List.drop_left]

theorem breakLines_other {c : Char} {s : List Char}
    (none : ∀ tag rest, c :: s = tag ++ rest → ¬BreakTag tag) :
    breakLines 0 (c :: s) = c :: breakLines 0 s := by
  have missed : breakLength (c :: s) = .none := by
    refine Option.eq_none_iff_forall_ne_some.mpr fun n found => ?_
    obtain ⟨tag, rest, here, whole, -⟩ := exists_of_breakLength found
    exact none tag rest whole here
  rw [breakLines, missed]

theorem broken_breakLines (s : List Char) : Broken s (breakLines 0 s) :=
  match s with
  | [] => .nil
  | c :: s => by
    by_cases tagged : ∃ tag rest, c :: s = tag ++ rest ∧ BreakTag tag
    · obtain ⟨tag, rest, whole, here⟩ := tagged
      have shorter : rest.length ≤ s.length := by
        obtain ⟨body, rfl, -⟩ := here.exists_body
        have lengths := congrArg List.length whole
        simp only [List.length_append, List.length_cons, List.length_nil] at lengths
        omega
      rw [whole, breakLines_tag here]
      exact .tag here (broken_breakLines rest)
    · have none : ∀ tag rest, c :: s = tag ++ rest → ¬BreakTag tag := fun tag rest whole here =>
        tagged ⟨tag, rest, whole, here⟩
      rw [breakLines_other none]
      exact .other none (broken_breakLines s)
termination_by s.length

theorem breakLines_eq_iff {s t : List Char} : breakLines 0 s = t ↔ Broken s t := by
  constructor
  · rintro rfl
    exact broken_breakLines s
  · intro broken
    induction broken with
    | nil => rfl
    | tag here _ ih => rw [breakLines_tag here, ih]
    | other none _ ih => rw [breakLines_other none, ih]

/-! Tags dropped -/

/-- A text and what it is without its tags. An opening bracket that none closes stays. -/
inductive Stripped : List Char → List Char → Prop
  | nil : Stripped [] []
  | tag {inside s t : List Char} (free : '>' ∉ inside) (rest : Stripped s t) :
      Stripped ('<' :: inside ++ '>' :: s) t
  | other {c : Char} {s t : List Char} (plain : c = '<' → '>' ∉ s) (rest : Stripped s t) :
      Stripped (c :: s) (c :: t)

theorem dropTags_closed {inside : List Char} (free : '>' ∉ inside) (opened s : List Char) :
    dropTags (some opened) (inside ++ '>' :: s) = dropTags none s := by
  induction inside generalizing opened with
  | nil => simp [dropTags]
  | cons c inside ih =>
    obtain ⟨own, others⟩ := List.ne_and_not_mem_of_not_mem_cons free
    rw [List.cons_append, dropTags]
    simp [Ne.symm own, ih others]

theorem dropTags_unclosed {s : List Char} (free : '>' ∉ s) (opened : List Char) :
    dropTags (some opened) s = opened.reverse ++ s := by
  induction s generalizing opened with
  | nil => simp [dropTags]
  | cons c s ih =>
    obtain ⟨own, others⟩ := List.ne_and_not_mem_of_not_mem_cons free
    rw [dropTags]
    simp [Ne.symm own, ih others]

theorem dropTags_eq_self {s : List Char} (free : '>' ∉ s) : dropTags none s = s := by
  induction s with
  | nil => rfl
  | cons c s ih =>
    have others : '>' ∉ s := fun mem => free (List.mem_cons_of_mem _ mem)
    rw [dropTags]
    by_cases own : c = '<'
    · simp [own, dropTags_unclosed others]
    · simp [own, ih others]

theorem dropTags_tag {inside : List Char} (free : '>' ∉ inside) (s : List Char) :
    dropTags none ('<' :: inside ++ '>' :: s) = dropTags none s := by
  rw [List.cons_append, dropTags]
  exact dropTags_closed free ['<'] s

theorem dropTags_other {c : Char} {s : List Char} (plain : c = '<' → '>' ∉ s) :
    dropTags none (c :: s) = c :: dropTags none s := by
  rw [dropTags]
  by_cases own : c = '<'
  · simp [own, dropTags_unclosed (plain own), dropTags_eq_self (plain own)]
  · simp [own]

theorem stripped_dropTags (s : List Char) : Stripped s (dropTags none s) :=
  match s with
  | [] => .nil
  | c :: s => by
    by_cases tagged : c = '<' ∧ '>' ∈ s
    · -- The tag ends with the first closing bracket, whatever brackets are opened in it.
      obtain ⟨rfl, mem⟩ := tagged
      obtain ⟨inside, rest, rfl, free⟩ := List.eq_append_cons_of_mem mem
      rw [← List.cons_append, dropTags_tag free]
      exact .tag free (stripped_dropTags rest)
    · have plain : c = '<' → '>' ∉ s := fun own mem => tagged ⟨own, mem⟩
      rw [dropTags_other plain]
      exact .other plain (stripped_dropTags s)
termination_by s.length

theorem dropTags_eq_iff {s t : List Char} : dropTags none s = t ↔ Stripped s t := by
  constructor
  · rintro rfl
    exact stripped_dropTags s
  · intro stripped
    induction stripped with
    | nil => rfl
    | tag free _ ih => rw [dropTags_tag free, ih]
    | other plain _ ih => rw [dropTags_other plain, ih]

theorem Stripped.sublist {s t : List Char} (stripped : Stripped s t) : t.Sublist s := by
  induction stripped with
  | nil => exact .slnil
  | tag _ _ ih => exact (ih.cons _).trans (List.sublist_append_right _ _)
  | other _ _ ih => exact ih.cons_cons _

/-- No tag is left, nor the brackets of one. -/
theorem Stripped.pairwise {s t : List Char} (stripped : Stripped s t) :
    t.Pairwise fun c d => c = '<' → d ≠ '>' := by
  induction stripped with
  | nil => exact .nil
  | tag _ _ ih => exact ih
  | other plain rest ih =>
    refine .cons (fun d mem own same => ?_) ih
    exact plain own (rest.sublist.subset (same ▸ mem))

end ServiceClient.Generator.Docs
