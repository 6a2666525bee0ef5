import Mathlib.Algebra.Group.Int.Defs
import Mathlib.Data.List.Basic
import ServiceClient.Number.Integer

/-! Decimal text read back: the digits of a number denote it, and the text of a word denotes the
word and holds no white space. What denotes an integer is a sign, or none, and digits. -/

namespace ServiceClient.Number

theorem digitsValue_eq_ofDigitChars (s : List Char) : digitsValue s = Nat.ofDigitChars 10 s 0 := by
  have step : (fun n (c : Char) => n * 10 + (c.toNat - 48)) =
      fun n c => 10 * n + (c.toNat - '0'.toNat) := by
    funext n c
    rw [Nat.mul_comm]
    rfl
  rw [digitsValue, step, Nat.ofDigitChars_eq_foldl]

theorem isDigit_of_mem_toDigits {n : Nat} {c : Char} (mem : c ∈ Nat.toDigits 10 n) :
    c.isDigit = true :=
  Nat.isDigit_of_mem_toDigits (by decide) (by decide) mem

theorem natural?_toDigits (n : Nat) : natural? (Nat.toDigits 10 n) = some n := by
  have digits : (Nat.toDigits 10 n).all Char.isDigit = true :=
    List.all_eq_true.mpr fun _ mem => isDigit_of_mem_toDigits mem
  have some : (Nat.toDigits 10 n).isEmpty = false := by simp
  rw [natural?, digits, some, digitsValue_eq_ofDigitChars, Nat.ofDigitChars_ten_toDigits]
  rfl

/-- A digit is neither a sign nor white space. -/
theorem plain_of_isDigit {c : Char} (digit : c.isDigit = true) :
    c ≠ '-' ∧ c ≠ '+' ∧ Text.isBlank c = false := by
  rw [Char.isDigit_iff_toNat] at digit
  change 48 ≤ c.toNat ∧ c.toNat ≤ 57 at digit
  refine ⟨?_, ?_, ?_⟩
  · rintro rfl
    exact absurd digit.1 (by decide)
  · rintro rfl
    exact absurd digit.1 (by decide)
  · simp only [Text.isBlank, Bool.or_eq_false_iff, Bool.and_eq_false_iff, decide_eq_false_iff_not,
      beq_eq_false_iff_ne]
    omega

theorem splitSign_toDigits (n : Nat) :
    splitSign (Nat.toDigits 10 n) = (false, Nat.toDigits 10 n) := by
  have digits : ∀ c ∈ Nat.toDigits 10 n, c.isDigit = true := fun c => isDigit_of_mem_toDigits
  cases text : Nat.toDigits 10 n with
  | nil => rfl
  | cons c s =>
    obtain ⟨minus, plus, -⟩ := plain_of_isDigit (digits c (text ▸ List.mem_cons_self))
    unfold splitSign
    split <;> simp_all

theorem toList_repr_int (i : Int) :
    i.repr.toList =
      if 0 ≤ i then Nat.toDigits 10 i.toNat else '-' :: Nat.toDigits 10 (-i).toNat := by
  rw [Int.repr_eq_if]
  split <;> simp

theorem integer?_repr (i : Int) : integer? i.repr.toList = some i := by
  rw [toList_repr_int]
  split
  · have value : (i.toNat : Int) = i := by omega
    simp only [integer?, splitSign_toDigits, natural?_toDigits]
    simp [value]
  · have value : max (-i) 0 = -i := by omega
    simp only [integer?, splitSign, natural?_toDigits]
    simp [value]

theorem isBlank_of_mem_repr {i : Int} {c : Char} (mem : c ∈ i.repr.toList) :
    Text.isBlank c = false := by
  rw [toList_repr_int] at mem
  split at mem
  · exact (plain_of_isDigit (isDigit_of_mem_toDigits mem)).2.2
  · rcases List.mem_cons.mp mem with rfl | mem
    · decide
    · exact (plain_of_isDigit (isDigit_of_mem_toDigits mem)).2.2

theorem word?_repr_of_fits {bits : Nat} {i : Int} (fit : fits bits i) :
    word? bits i.repr.toList = some i := by
  rw [word?, integer?_repr, Option.filter_some, if_pos fit]

theorem fits_iff {bits : Nat} {i : Int} :
    fits bits i ↔ -2 ^ (bits - 1) ≤ i ∧ i < 2 ^ (bits - 1) := by
  have power : (Nat.pow 2 (bits - 1) : Int) = 2 ^ (bits - 1) := by
    exact_mod_cast rfl
  rw [fits, Bool.and_eq_true, decide_eq_true_eq, decide_eq_true_eq, power]

theorem fits_int32 (n : Int32) : fits 32 n.toInt :=
  fits_iff.mpr ⟨n.le_toInt, n.toInt_lt⟩

theorem fits_int64 (n : Int64) : fits 64 n.toInt :=
  fits_iff.mpr ⟨n.le_toInt, n.toInt_lt⟩

/-- The text of a word of 32 bits denotes the word. -/
theorem word?_repr (n : Int32) : word? 32 n.toInt.repr.toList = some n.toInt :=
  word?_repr_of_fits (fits_int32 n)

/-! What denotes an integer -/

/-- A sign or none, with `true` for minus. -/
inductive SignText : List Char → Bool → Prop
  | none : SignText [] false
  | plus : SignText ['+'] false
  | minus : SignText ['-'] true

/-- An optional sign and one digit or more, which denote an integer in decimal. -/
inductive Denotes : List Char → Int → Prop
  | decimal {sign digits : List Char} {negative : Bool} (signed : SignText sign negative)
      (some : digits ≠ []) (digit : ∀ c ∈ digits, c.isDigit) :
      Denotes (sign ++ digits)
        (if negative then -(Nat.ofDigitChars 10 digits 0 : Int) else Nat.ofDigitChars 10 digits 0)

theorem Denotes.plain {s : List Char} {n : Int} (denotes : Denotes s n) :
    ∀ c ∈ s, Text.isBlank c = false := by
  obtain ⟨signed, -, digit⟩ := denotes
  intro c mem
  rcases List.mem_append.mp mem with mem | mem
  · cases signed with
    | none => cases mem
    | plus | minus => rw [List.mem_singleton.mp mem]; decide
  · exact (plain_of_isDigit (digit c mem)).2.2

theorem natural?_eq_some_iff {s : List Char} {n : Nat} :
    natural? s = some n ↔
      s ≠ [] ∧ (∀ c ∈ s, c.isDigit) ∧ Nat.ofDigitChars 10 s 0 = n := by
  rw [natural?, digitsValue_eq_ofDigitChars]
  simp [and_assoc]

theorem integer?_eq (s : List Char) :
    integer? s = (natural? (splitSign s).2).map fun n : Nat =>
      if (splitSign s).1 then -(n : Int) else n := by
  cases parts : splitSign s with
  | mk negative digits =>
    rw [integer?, parts]
    dsimp only
    cases natural? digits <;> rfl

theorem splitSign_append {sign digits : List Char} {negative : Bool}
    (signed : SignText sign negative) (some : digits ≠ []) (digit : ∀ c ∈ digits, c.isDigit) :
    splitSign (sign ++ digits) = (negative, digits) := by
  cases signed with
  | plus | minus => rfl
  | none =>
    obtain ⟨c, s, rfl⟩ := List.exists_cons_of_ne_nil some
    obtain ⟨minus, plus, -⟩ := plain_of_isDigit (digit c List.mem_cons_self)
    simp [splitSign, minus, plus]

theorem signText_splitSign (s : List Char) :
    ∃ sign, SignText sign (splitSign s).1 ∧ s = sign ++ (splitSign s).2 := by
  unfold splitSign
  split
  · exact ⟨_, .minus, rfl⟩
  · exact ⟨_, .plus, rfl⟩
  · exact ⟨_, .none, rfl⟩

theorem integer?_eq_some_iff {s : List Char} {n : Int} : integer? s = some n ↔ Denotes s n := by
  rw [integer?_eq, Option.map_eq_some_iff]
  constructor
  · rintro ⟨k, natural, rfl⟩
    obtain ⟨some, digit, rfl⟩ := natural?_eq_some_iff.mp natural
    obtain ⟨sign, signed, whole⟩ := signText_splitSign s
    have text := Denotes.decimal signed some digit
    rwa [← whole] at text
  · rintro ⟨signed, some, digit⟩
    rw [splitSign_append signed some digit]
    exact ⟨_, natural?_eq_some_iff.mpr ⟨some, digit, rfl⟩, rfl⟩

end ServiceClient.Number
