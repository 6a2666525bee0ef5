import Mathlib
import ServiceClient.Proofs.Text.Percent
import ServiceClient.Proofs.Wire.Request
import ServiceClient.Proofs.Wire.Template

/-! The path of a request as one substitution. A template has one split into text and placeholders,
and the path is that split with each bound placeholder replaced by its value, encoded. -/

namespace ServiceClient.Wire
open ServiceClient.Text

namespace Template

inductive Piece where
  | text (chars : List Char)
  | placeholder (name : List Char) (greedy : Bool)

/-- A name as it stands between the braces. -/
def written (name : List Char) (greedy : Bool) : List Char :=
  if greedy then name ++ ['+'] else name

/-- Left to right, at each leftmost brace that opens and the first after it that closes. -/
inductive Splits : List Char → List Piece → Prop where
  | rest {s : List Char} : (∀ before after, s = before ++ '{' :: after → '}' ∉ after) →
      Splits s [.text s]
  | next {before name s : List Char} {greedy : Bool} {pieces : List Piece} :
      '{' ∉ before → '}' ∉ name → (greedy = false → name.getLast? ≠ some '+') →
      Splits s pieces →
      Splits (before ++ '{' :: (written name greedy ++ '}' :: s))
        (.text before :: .placeholder name greedy :: pieces)

/-- What becomes of a piece where some names are bound. -/
def Piece.filled (value? : String → Option String) : Piece → List Char
  | .text chars => chars
  | .placeholder name greedy =>
    match value? (String.ofList name) with
    | some value => percentChars (keep greedy) value.toList
    | none => '{' :: written name greedy ++ ['}']

/-- Characters that an encoded value holds as they are. -/
def Plain (greedy : Bool) (c : Char) : Prop :=
  c.isAlphanum ∨ c ∈ ['-', '_', '.', '~'] ∨ (greedy ∧ c = '/')

theorem splitGreedy_written {name : List Char} {greedy : Bool}
    (single : greedy = false → name.getLast? ≠ some '+') :
    splitGreedy (written name greedy) = (name, greedy) := by
  cases greedy with
  | false => rw [written, if_neg (by decide), splitGreedy, if_neg (single rfl)]
  | true => simp [written, splitGreedy]

theorem exists_written (inner : List Char) :
    ∃ name greedy, inner = written name greedy ∧ (greedy = false → name.getLast? ≠ some '+') := by
  by_cases ends : inner.getLast? = some '+'
  · obtain ⟨name, rfl⟩ := List.getLast?_eq_some_iff.mp ends
    exact ⟨name, true, rfl, nofun⟩
  · exact ⟨inner, false, rfl, fun _ => ends⟩

theorem not_mem_of_written {c : Char} {name : List Char} {greedy : Bool}
    (absent : c ∉ written name greedy) : c ∉ name := by
  cases greedy with
  | false => exact absent
  | true => exact fun mem => absent (List.mem_append_left _ mem)

theorem not_mem_written {name : List Char} (plain : '}' ∉ name) (greedy : Bool) :
    '}' ∉ written name greedy := by
  cases greedy with
  | false => exact plain
  | true => simp [written, plain]

section Split

/-- Texts split at the same character's first occurrence. -/
theorem split_eq {c : Char} {before other after later : List Char} (first : c ∉ before)
    (first' : c ∉ other) (same : before ++ c :: after = other ++ c :: later) :
    before = other ∧ after = later := by
  rcases List.append_eq_append_iff.mp same with ⟨gap, rfl, rest⟩ | ⟨gap, rfl, rest⟩
  · cases gap with
    | nil => exact ⟨(List.append_nil _).symm, (List.cons.inj rest).2⟩
    | cons d gap =>
      obtain rfl := (List.cons.inj rest).1
      simp at first'
  · cases gap with
    | nil => exact ⟨List.append_nil _, (List.cons.inj rest).2.symm⟩
    | cons d gap =>
      obtain rfl := (List.cons.inj rest).1
      simp at first

theorem splits_unclosed {before after : List Char} (first : '{' ∉ before) (unclosed : '}' ∉ after) :
    Splits (before ++ '{' :: after) [.text (before ++ '{' :: after)] := by
  refine .rest fun left right same closing => ?_
  rcases List.append_eq_append_iff.mp same with ⟨gap, -, opened⟩ | ⟨gap, rfl, opened⟩
  · cases gap with
    | nil =>
      obtain rfl := (List.cons.inj opened).2
      exact unclosed closing
    | cons c gap =>
      obtain rfl := (List.cons.inj opened).2
      exact unclosed (by simp [closing])
  · cases gap with
    | nil =>
      obtain rfl := (List.cons.inj opened).2
      exact unclosed closing
    | cons c gap =>
      obtain rfl := (List.cons.inj opened).1
      simp at first

theorem exists_splits (s : List Char) : ∃ pieces, Splits s pieces := by
  induction n : s.length using Nat.strong_induction_on generalizing s with
  | _ n ih =>
    subst n
    by_cases opens : '{' ∈ s
    · obtain ⟨before, after, rfl, first⟩ := List.eq_append_cons_of_mem opens
      by_cases closing : '}' ∈ after
      · obtain ⟨inner, later, rfl, plain⟩ := List.eq_append_cons_of_mem closing
        obtain ⟨name, greedy, rfl, single⟩ := exists_written inner
        obtain ⟨pieces, split⟩ := ih later.length (by simp; omega) later rfl
        exact ⟨_, .next first (not_mem_of_written plain) single split⟩
      · exact ⟨_, splits_unclosed first closing⟩
    · refine ⟨_, .rest ?_⟩
      rintro before after rfl
      simp at opens

theorem Splits.unique {s : List Char} {pieces others : List Piece} (split : Splits s pieces)
    (other : Splits s others) : pieces = others := by
  induction split generalizing others with
  | rest unclosed =>
    cases other with
    | rest => rfl
    | next => exact absurd (by simp) (unclosed _ _ rfl)
  | @next before name s greedy pieces first plain single _ ih =>
    generalize whole : before ++ '{' :: (written name greedy ++ '}' :: s) = template at other
    cases other with
    | rest unclosed => exact absurd (by simp) (unclosed _ _ whole.symm)
    | next first' plain' single' later =>
      obtain ⟨rfl, inner⟩ := split_eq first first' whole
      obtain ⟨same, rfl⟩ :=
        split_eq (not_mem_written plain _) (not_mem_written plain' _) inner
      have names := congrArg splitGreedy same
      rw [splitGreedy_written single, splitGreedy_written single'] at names
      obtain ⟨rfl, rfl⟩ := Prod.mk.inj names
      rw [ih later]

end Split

section Expansion
variable {value? : String → Option String}

theorem expandFrom_text {before : List Char} (plain : '{' ∉ before) (s : List Char) :
    expandFrom value? none (before ++ s) = before ++ expandFrom value? none s := by
  induction before with
  | nil => rfl
  | cons c before ih =>
    rw [List.mem_cons, not_or] at plain
    rw [List.cons_append, expandFrom, if_neg (Ne.symm plain.1), ih plain.2, List.cons_append]

theorem expandFrom_unclosed {after : List Char} (unclosed : '}' ∉ after) (read : List Char) :
    expandFrom value? (some read) after = '{' :: read.reverse ++ after := by
  induction after generalizing read with
  | nil => rw [expandFrom, List.append_nil]
  | cons c after ih =>
    rw [List.mem_cons, not_or] at unclosed
    rw [expandFrom, if_neg (Ne.symm unclosed.1), ih unclosed.2, List.reverse_cons]
    simp

theorem fill_written {name : List Char} {greedy : Bool}
    (single : greedy = false → name.getLast? ≠ some '+') :
    fill value? (written name greedy) = (Piece.placeholder name greedy).filled value? := by
  rw [fill, splitGreedy_written single]
  rfl

/-- Expanding a template fills the pieces of its split. -/
theorem Splits.expandFrom_eq {s : List Char} {pieces : List Piece} (split : Splits s pieces) :
    expandFrom value? none s = pieces.flatMap (Piece.filled value?) := by
  induction split with
  | @rest s unclosed =>
    rw [List.flatMap_singleton, Piece.filled]
    by_cases opens : '{' ∈ s
    · obtain ⟨before, after, rfl, first⟩ := List.eq_append_cons_of_mem opens
      rw [expandFrom_text first, expandFrom, if_pos rfl, expandFrom_unclosed (unclosed _ _ rfl)]
      rfl
    · have copied : expandFrom value? none (s ++ []) = s ++ [] := expandFrom_text opens []
      rwa [List.append_nil] at copied
  | @next before name s greedy pieces first plain single _ ih =>
    rw [expandFrom_text first, expandFrom, if_pos rfl,
      expandFrom_opened (not_mem_written plain greedy), List.reverse_nil, List.nil_append,
      fill_written single, ih]
    rfl

end Expansion

theorem keeps_keep (greedy : Bool) : Keeps (keep greedy) := by
  intro c kept
  rw [keep, Bool.or_eq_true, Bool.and_eq_true, beq_iff_eq] at kept
  rcases kept with kept | ⟨-, rfl⟩
  · exact keeps_unreserved c kept
  · decide

theorem plain_of_keep {greedy : Bool} {c : Char} (kept : keep greedy c) : Plain greedy c := by
  simp only [keep, unreserved, Bool.or_eq_true, Bool.and_eq_true, beq_iff_eq] at kept
  rcases kept with ((((kept | rfl) | rfl) | rfl) | rfl) | slash
  · exact .inl kept
  · exact .inr (.inl (by simp))
  · exact .inr (.inl (by simp))
  · exact .inr (.inl (by simp))
  · exact .inr (.inl (by simp))
  · exact .inr (.inr slash)

section Values
variable {value? other? : String → Option String} {name : String} {v w : String}

theorem filled_congr {p : Piece} (apart : ∀ greedy, p ≠ .placeholder name.toList greedy)
    (agree : ∀ n, n ≠ name → value? n = other? n) : p.filled value? = p.filled other? := by
  cases p with
  | text => rfl
  | placeholder chars greedy =>
    have differs : String.ofList chars ≠ name := by
      rintro rfl
      exact apart greedy (by rw [String.toList_ofList])
    rw [Piece.filled, Piece.filled, agree _ differs]

theorem filled_placeholder (bound : value? name = some v) (greedy : Bool) :
    (Piece.placeholder name.toList greedy).filled value? =
      percentChars (keep greedy) v.toList := by
  rw [Piece.filled, String.ofList_toList, bound]

/-- What is filled alike is filled alike from the first placeholder of the name on. -/
theorem exists_first_placeholder {pieces : List Piece} {greedy : Bool}
    (occurs : .placeholder name.toList greedy ∈ pieces)
    (agree : ∀ n, n ≠ name → value? n = other? n) (bound : value? name = some v)
    (other : other? name = some w)
    (same : pieces.flatMap (Piece.filled value?) = pieces.flatMap (Piece.filled other?)) :
    ∃ (first : Bool) (after : List Piece),
      percentChars (keep first) v.toList ++ after.flatMap (Piece.filled value?) =
        percentChars (keep first) w.toList ++ after.flatMap (Piece.filled other?) := by
  induction pieces with
  | nil => cases occurs
  | cons p pieces ih =>
    rw [List.flatMap_cons, List.flatMap_cons] at same
    by_cases own : ∃ greedy, p = .placeholder name.toList greedy
    · obtain ⟨first, rfl⟩ := own
      rw [filled_placeholder bound, filled_placeholder other] at same
      exact ⟨first, pieces, same⟩
    · rw [not_exists] at own
      rw [filled_congr own agree, List.append_cancel_left_eq] at same
      refine ih ?_ same
      exact (List.mem_cons.mp occurs).resolve_left fun here => own _ here.symm

/-- A longer value leaves no piece shorter. -/
theorem length_filled_le (agree : ∀ n, n ≠ name → value? n = other? n)
    (bound : value? name = some v) (other : other? name = some w)
    (starts : v.toList <+: w.toList) (pieces : List Piece) :
    (pieces.flatMap (Piece.filled value?)).length ≤
      (pieces.flatMap (Piece.filled other?)).length := by
  induction pieces with
  | nil => exact Nat.le_refl 0
  | cons p pieces ih =>
    rw [List.flatMap_cons, List.flatMap_cons, List.length_append, List.length_append]
    refine Nat.add_le_add ?_ ih
    by_cases own : ∃ greedy, p = .placeholder name.toList greedy
    · obtain ⟨greedy, rfl⟩ := own
      obtain ⟨more, longer⟩ := starts
      rw [filled_placeholder bound, filled_placeholder other, ← longer, percentChars_append,
        List.length_append]
      exact Nat.le_add_right _ _
    · rw [filled_congr (not_exists.mp own) agree]

theorem eq_of_filled_of_starts {after : List Piece} {greedy : Bool}
    (agree : ∀ n, n ≠ name → value? n = other? n) (bound : value? name = some v)
    (other : other? name = some w) (starts : v.toList <+: w.toList)
    (same : percentChars (keep greedy) v.toList ++ after.flatMap (Piece.filled value?) =
      percentChars (keep greedy) w.toList ++ after.flatMap (Piece.filled other?)) : v = w := by
  have later := length_filled_le agree bound other starts after
  obtain ⟨more, longer⟩ := starts
  rw [← longer, percentChars_append] at same
  have lengths := congrArg List.length same
  simp only [List.length_append] at lengths
  have empty : percentChars (keep greedy) more = [] := List.length_eq_zero_iff.mp (by omega)
  rw [percentChars_eq_nil empty, List.append_nil] at longer
  exact String.toList_inj.mp longer

/-- Values that fill a template alike are one value. -/
theorem eq_of_filled {pieces : List Piece} {greedy : Bool}
    (occurs : .placeholder name.toList greedy ∈ pieces)
    (agree : ∀ n, n ≠ name → value? n = other? n) (bound : value? name = some v)
    (other : other? name = some w)
    (same : pieces.flatMap (Piece.filled value?) = pieces.flatMap (Piece.filled other?)) :
    v = w := by
  obtain ⟨first, after, same⟩ := exists_first_placeholder occurs agree bound other same
  rcases starts_of_percentChars_append (keeps_keep first) same with starts | starts
  · exact eq_of_filled_of_starts agree bound other starts same
  · have back : ∀ n, n ≠ name → other? n = value? n := fun n apart => (agree n apart).symm
    exact (eq_of_filled_of_starts back other bound starts same.symm).symm

end Values

end Template

namespace Request
open Template

/-- Calls that bind placeholders, one after the other. -/
def bindAll (r : Request) (bindings : List (String × String)) : Request :=
  bindings.foldl (fun r binding => r.setPathParam binding.1 binding.2) r

/-- What the last of the calls for a name gave it. -/
def lastBound (bindings : List (String × String)) (name : String) : Option String :=
  (bindings.filter (·.1 == name)).getLast?.map (·.2)

theorem lastBound_concat (bindings : List (String × String)) (binding : String × String)
    (name : String) :
    lastBound (bindings ++ [binding]) name =
      if name = binding.1 then some binding.2 else lastBound bindings name := by
  rw [lastBound, lastBound, List.filter_append]
  by_cases met : name = binding.1
  · simp [met]
  · have other : (binding.1 == name) = false := beq_eq_false_iff_ne.mpr (Ne.symm met)
    simp [met, other]

theorem path_bindAll (r : Request) (bindings : List (String × String)) :
    (r.bindAll bindings).path = r.path := by
  induction bindings generalizing r with
  | nil => rfl
  | cons binding bindings ih => exact ih (r.setPathParam binding.1 binding.2)

theorem get?_bindAll {r : Request} (fresh : r.pathParams = [])
    (bindings : List (String × String)) (name : String) :
    (r.bindAll bindings).pathParams.get? name = lastBound bindings name := by
  induction bindings using List.reverseRecOn with
  | nil =>
    rw [bindAll, List.foldl_nil, fresh]
    rfl
  | append_singleton bindings binding ih =>
    have last : r.bindAll (bindings ++ [binding]) =
        (r.bindAll bindings).setPathParam binding.1 binding.2 := by
      rw [bindAll, List.foldl_append]
      rfl
    rw [last, lastBound_concat, ← ih]
    exact Table.get?_put ..

/-- The path has the pieces of the template, filled with what was bound last. -/
theorem toList_resolvedPath {r : Request} (fresh : r.pathParams = []) {pieces : List Piece}
    (split : Splits r.path.toList pieces) (bindings : List (String × String)) :
    (r.bindAll bindings).resolvedPath.toList =
      pieces.flatMap (Piece.filled (lastBound bindings)) := by
  have values : (r.bindAll bindings).pathParams.get? = lastBound bindings :=
    funext (get?_bindAll fresh bindings)
  rw [resolvedPath, Template.expand, String.toList_ofList, path_bindAll, values]
  exact split.expandFrom_eq

/-- The path of a request is one simultaneous substitution in its template. So it does not depend on
how calls for different names are mixed, and it tells the values of a name apart. -/
theorem resolvedPath_substitutes (method endpointPrefix region template : String) :
    let request : Request := { method, endpointPrefix, region, path := template }
    let path bindings := (request.bindAll bindings).resolvedPath
    ∃ pieces, (∀ others, Splits template.toList others ↔ others = pieces) ∧
      (∀ bindings, (path bindings).toList = pieces.flatMap (Piece.filled (lastBound bindings))) ∧
      (∀ greedy (value : String), Escaped (Plain greedy) (percentChars (keep greedy) value.toList) ∧
        percentBytes (utf8 (String.ofList (percentChars (keep greedy) value.toList))) =
          utf8 value) ∧
      (∀ bindings others, (∀ name, bindings.filter (·.1 == name) = others.filter (·.1 == name)) →
        path bindings = path others) ∧
      ∀ name greedy, .placeholder name.toList greedy ∈ pieces → ∀ bindings others value other,
        (∀ n, n ≠ name → lastBound bindings n = lastBound others n) →
        lastBound bindings name = some value → lastBound others name = some other →
        path bindings = path others → value = other := by
  intro request path
  obtain ⟨pieces, split⟩ := exists_splits template.toList
  have filled : ∀ bindings,
      (path bindings).toList = pieces.flatMap (Piece.filled (lastBound bindings)) :=
    toList_resolvedPath rfl split
  refine ⟨pieces, fun others => ⟨fun other => other.unique split, fun same => same ▸ split⟩, filled,
    fun greedy value => ?_, fun bindings others alike => ?_,
    fun name greedy occurs bindings others value other agree bound bound' same => ?_⟩
  · refine ⟨escaped_percentChars (fun c => plain_of_keep) _, ?_⟩
    rw [utf8, String.toList_ofList, percentBytes_percentChars (keeps_keep greedy)]
    rfl
  · have values : lastBound bindings = lastBound others := by
      funext name
      rw [lastBound, lastBound, alike name]
    exact String.toList_inj.mp (by rw [filled, filled, values])
  · refine eq_of_filled occurs agree bound bound' ?_
    rw [← filled, ← filled, same]

example :
    (bindAll { method := "GET", endpointPrefix := "", region := "", path := "/\x7bA\x7d/\x7bB+\x7d" }
      [("B", "x"), ("A", "\x7bB\x7d"), ("B", "y/z")]).resolvedPath = "/%7BB%7D/y/z" := by
  decide +kernel

end Request
end ServiceClient.Wire
