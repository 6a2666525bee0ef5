import ServiceClient.Proofs.Data.SortedMap
import ServiceClient.Proofs.Number.Integer
import ServiceClient.Wire.Scalar

/-! Scalars read back from their text: text of any form, integers and truth values. -/

namespace ServiceClient.Wire
open ServiceClient.Schema

theorem dropWhile_plain {s : List Char} (plain : ∀ c ∈ s, Text.isBlank c = false) :
    s.dropWhile Text.isBlank = s := by
  cases s with
  | nil => rfl
  | cons c s => exact List.dropWhile_cons_of_neg (by simp [plain c List.mem_cons_self])

/-- The text `s` is `core` with white space before and after it. -/
def Surrounded (core s : List Char) : Prop :=
  ∃ before after, s = before ++ core ++ after ∧ (∀ c ∈ before, Text.isBlank c) ∧
    ∀ c ∈ after, Text.isBlank c

theorem surrounded_trimChars (s : List Char) : Surrounded (Text.trimChars s) s := by
  have taken : ∀ t : List Char, ∀ c ∈ t.takeWhile Text.isBlank, Text.isBlank c := fun _ =>
    List.all_eq_true.mp List.all_takeWhile
  refine ⟨s.takeWhile Text.isBlank,
    ((Text.trimStart s).reverse.takeWhile Text.isBlank).reverse, ?_, taken s,
    fun c mem => taken _ c (List.mem_reverse.mp mem)⟩
  rw [Text.trimChars, Text.trimEnd, List.append_assoc, ← List.reverse_append,
    List.takeWhile_append_dropWhile, List.reverse_reverse, Text.trimStart,
    List.takeWhile_append_dropWhile]

/-- White space around a text without any is all that is trimmed. -/
theorem trimChars_of_surrounded {core s : List Char} (around : Surrounded core s)
    (plain : ∀ c ∈ core, Text.isBlank c = false) : Text.trimChars s = core := by
  obtain ⟨before, after, rfl, lead, trail⟩ := around
  have back : ∀ c ∈ after.reverse, Text.isBlank c := fun c mem => trail c (List.mem_reverse.mp mem)
  have ends : Text.trimEnd (core ++ after) = core := by
    rw [Text.trimEnd, List.reverse_append, List.dropWhile_append_of_pos back,
      dropWhile_plain fun c mem => plain c (List.mem_reverse.mp mem), List.reverse_reverse]
  have starts : Text.trimEnd (Text.trimStart (core ++ after)) = core := by
    cases core with
    | nil =>
      have none : after.dropWhile Text.isBlank = [] := by
        simpa using @List.dropWhile_append_of_pos _ Text.isBlank after [] trail
      rw [Text.trimStart, List.nil_append, none]
      rfl
    | cons c core =>
      have first : ¬Text.isBlank c = true := by simp [plain c List.mem_cons_self]
      rw [Text.trimStart, List.cons_append, List.dropWhile_cons_of_neg first, ← List.cons_append,
        ends]
  rw [Text.trimChars, Text.trimStart, List.append_assoc, List.dropWhile_append_of_pos lead]
  exact starts

theorem trimChars_eq_self {s : List Char} (plain : ∀ c ∈ s, Text.isBlank c = false) :
    Text.trimChars s = s :=
  trimChars_of_surrounded ⟨[], [], by simp, nofun, nofun⟩ plain

namespace Scalar

theorem ofText_text {kind : PrimitiveKind} (verbatim : kind = .string ∨ kind = .timestamp)
    (field s : String) : ofText kind field s = .ok (text s) := by
  rcases verbatim with rfl | rfl <;> rfl

theorem ofText_integer (field : String) (n : Int32) :
    ofText .integer field (toText (integer n)) = .ok (integer n) := by
  have trimmed : Text.trimChars n.toInt.repr.toList = n.toInt.repr.toList :=
    trimChars_eq_self fun _ => Number.isBlank_of_mem_repr
  simp only [ofText, toText, Int.toString_eq_repr, trimmed, read?, Number.word?_repr,
    Option.map_some, Int32.ofInt_toInt]

theorem ofText_boolean (field : String) (b : Bool) :
    ofText .boolean field (toText (boolean b)) = .ok (boolean b) := by
  cases b <;> rfl

@[simp] theorem lt_text (a b : String) : lt (text a) (text b) = decide (a < b) := rfl

@[simp] theorem lt_integer (a b : Int32) : lt (integer a) (integer b) = decide (a < b) := rfl

@[simp] theorem lt_long (a b : Int64) : lt (long a) (long b) = decide (a < b) := rfl

@[simp] theorem lt_boolean (a b : Bool) : lt (boolean a) (boolean b) = (!a && b) := rfl

@[simp] theorem lt_blob (a b : List UInt8) : lt (blob a) (blob b) = decide (a < b) := rfl

theorem strict_lt : SortedMap.Strict lt where
  irrefl a := by
    cases a with
    | float | double => rfl
    | _ => simp
  trans a b c low high := by
    -- Scalars of different kinds are never in order.
    cases a <;> cases b <;> try cases low
    all_goals cases c <;> try cases high
    all_goals simp only [lt_text, lt_integer, lt_long, lt_boolean, lt_blob, decide_eq_true_eq,
      Bool.and_eq_true] at low high ⊢
    case text => exact String.lt_trans low high
    case integer => exact Int32.lt_trans low high
    case long => exact Int64.lt_trans low high
    case boolean => exact ⟨low.1, high.2⟩
    case blob => exact List.lt_trans low high

theorem comparable_text (a b : String) : SortedMap.Comparable lt (text a) (text b) := by
  intro low high
  simp only [lt_text, decide_eq_false_iff_not, String.not_lt] at low high
  rw [String.le_antisymm high low]

theorem comparable_integer (a b : Int32) : SortedMap.Comparable lt (integer a) (integer b) := by
  intro low high
  simp only [lt_integer, decide_eq_false_iff_not, Int32.not_lt] at low high
  rw [Int32.le_antisymm high low]

theorem comparable_long (a b : Int64) : SortedMap.Comparable lt (long a) (long b) := by
  intro low high
  simp only [lt_long, decide_eq_false_iff_not, Int64.not_lt] at low high
  rw [Int64.le_antisymm high low]

theorem comparable_boolean (a b : Bool) : SortedMap.Comparable lt (boolean a) (boolean b) := by
  cases a <;> cases b <;> simp [SortedMap.Comparable]

theorem comparable_blob (a b : List UInt8) : SortedMap.Comparable lt (blob a) (blob b) := by
  intro low high
  simp only [lt_blob, decide_eq_false_iff_not, List.not_lt] at low high
  rw [List.le_antisymm high low]

theorem exists_read?_of_ofText {kind : PrimitiveKind} {field s : String} {a : Scalar}
    (found : ofText kind field s = .ok a) (string : kind ≠ .string)
    (timestamp : kind ≠ .timestamp) : ∃ chars, read? kind chars = some a := by
  unfold ofText at found
  split at found
  · exact absurd rfl string
  · exact absurd rfl timestamp
  · split at found
    · cases found
      exact ⟨_, ‹_›⟩
    · cases found

/-- Values read as one form can be put in order if all of that form can. -/
theorem comparable_of_form {γ : Type} {form : γ → Scalar} {kind : PrimitiveKind}
    {field field' s t : String} {a b : Scalar} (first : ofText kind field s = .ok a)
    (second : ofText kind field' t = .ok b) (string : kind ≠ .string)
    (timestamp : kind ≠ .timestamp)
    (formed : ∀ ⦃chars a⦄, read? kind chars = some a → ∃ x, form x = a)
    (each : ∀ x y, SortedMap.Comparable lt (form x) (form y)) : SortedMap.Comparable lt a b := by
  obtain ⟨_, first⟩ := exists_read?_of_ofText first string timestamp
  obtain ⟨_, second⟩ := exists_read?_of_ofText second string timestamp
  obtain ⟨x, rfl⟩ := formed first
  obtain ⟨y, rfl⟩ := formed second
  exact each x y

theorem exists_form_of_map {γ : Type} {form : γ → Scalar} {read : Option γ} {a : Scalar}
    (found : read.map form = some a) : ∃ x, form x = a :=
  (Option.map_eq_some_iff.mp found).imp fun _ => And.right

theorem exists_boolean_of_read? {chars : List Char} {a : Scalar}
    (found : read? .boolean chars = some a) : ∃ b, boolean b = a := by
  simp only [read?] at found
  split at found
  · exact ⟨_, Option.some.inj found⟩
  · split at found
    · exact ⟨_, Option.some.inj found⟩
    · cases found

/-- Keys read from text can be put in order where the kind is one of ordered values. -/
theorem comparable_ofText {kind : PrimitiveKind} (orderable : kind.isOrderable)
    {field field' s t : String} {a b : Scalar} (first : ofText kind field s = .ok a)
    (second : ofText kind field' t = .ok b) : SortedMap.Comparable lt a b := by
  cases kind with
  | string | timestamp =>
    cases first
    cases second
    exact comparable_text s t
  | integer =>
    exact comparable_of_form first second nofun nofun (fun _ _ => exists_form_of_map)
      fun _ _ => comparable_integer _ _
  | long =>
    exact comparable_of_form first second nofun nofun (fun _ _ => exists_form_of_map)
      fun _ _ => comparable_long _ _
  | blob =>
    exact comparable_of_form first second nofun nofun (fun _ _ => exists_form_of_map)
      comparable_blob
  | boolean =>
    exact comparable_of_form first second nofun nofun (fun _ _ => exists_boolean_of_read?)
      comparable_boolean
  | float | double => cases orderable

end Scalar
end ServiceClient.Wire
