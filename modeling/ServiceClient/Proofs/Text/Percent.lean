import Mathlib
import ServiceClient.Proofs.Text.Utf8
import ServiceClient.Text.Percent

/-! Percent encoding read back. Where the characters that are kept are in ASCII and the percent sign
is not one of them, every text comes back from its encoded form. -/

namespace ServiceClient.Text

section Bytes
variable (b : UInt8) (rest : List UInt8)

theorem percentBytes_cons (other : b ≠ 0x25) :
    percentBytes (b :: rest) = b :: percentBytes rest := by
  rcases rest with _ | ⟨x, _ | ⟨y, rest⟩⟩
  · rfl
  · rfl
  · rw [percentBytes, if_neg other]

/-- The digits of a byte make the byte again. -/
theorem exists_digits : ∃ x y, (percentByte b).flatMap String.utf8EncodeChar = [0x25, x, y] ∧
    hexByte? x y = some b := by
  have sign : String.utf8EncodeChar '%' = [0x25] := by decide
  have digit : ∀ n < 16, ∃ x, String.utf8EncodeChar (upperHex n) = [x] ∧
      Number.hexDigit? (Char.ofNat x.toNat) = some n := by
    intro n small
    have single : String.utf8EncodeChar (upperHex n) = [UInt8.ofNat (upperHex n).toNat] := by
      revert n
      decide +kernel
    have value : Number.hexDigit? (Char.ofNat (UInt8.ofNat (upperHex n).toNat).toNat) = some n := by
      revert n
      decide +kernel
    exact ⟨_, single, value⟩
  have bound := b.toNat_lt
  obtain ⟨x, first, high⟩ := digit (b.toNat / 16) (by omega)
  obtain ⟨y, second, low⟩ := digit (b.toNat % 16) (by omega)
  refine ⟨x, y, ?_, ?_⟩
  · simp [percentByte, sign, first, second]
  · have whole : b.toNat / 16 * 16 + b.toNat % 16 = b.toNat := by omega
    have made : hexByte? x y = some (UInt8.ofNat (b.toNat / 16 * 16 + b.toNat % 16)) := by
      rw [hexByte?, high, low]
      rfl
    rw [made, whole, UInt8.ofNat_toNat]

theorem percentBytes_percentByte :
    percentBytes ((percentByte b).flatMap String.utf8EncodeChar ++ rest) =
      b :: percentBytes rest := by
  obtain ⟨x, y, digits, made⟩ := exists_digits b
  rw [digits, List.cons_append, List.cons_append, List.cons_append, List.nil_append, percentBytes,
    if_pos rfl, made]

end Bytes

theorem percentBytes_encoded (bytes rest : List UInt8) :
    percentBytes ((bytes.flatMap percentByte).flatMap String.utf8EncodeChar ++ rest) =
      bytes ++ percentBytes rest := by
  induction bytes with
  | nil => rfl
  | cons b bytes ih =>
    rw [List.flatMap_cons, List.flatMap_append, List.append_assoc, percentBytes_percentByte, ih,
      List.cons_append]

theorem utf8EncodeChar_ascii {c : Char} (ascii : c.toNat < 0x80) :
    String.utf8EncodeChar c = [UInt8.ofNat c.toNat] := by
  have value : c.val.toNat = c.toNat := rfl
  simp only [String.utf8EncodeChar, value]
  rw [if_pos (by omega)]

/-- Characters that an encoded text may keep. -/
def Keeps (keep : Char → Bool) : Prop :=
  ∀ c, keep c → c.toNat < 0x80 ∧ c ≠ '%'

theorem percentBytes_percentChars_append {keep : Char → Bool} (plain : Keeps keep) (s : List Char)
    (rest : List UInt8) :
    percentBytes ((percentChars keep s).flatMap String.utf8EncodeChar ++ rest) =
      s.flatMap String.utf8EncodeChar ++ percentBytes rest := by
  induction s with
  | nil => rfl
  | cons c s ih =>
    rw [percentChars] at ih
    rw [percentChars, List.flatMap_cons, List.flatMap_append, List.flatMap_cons, List.append_assoc]
    split
    · rename_i kept
      obtain ⟨ascii, sign⟩ := plain c kept
      have other : UInt8.ofNat c.toNat ≠ 0x25 := by
        intro same
        refine sign (Char.toNat_inj.mp ?_)
        have value := congrArg UInt8.toNat same
        rwa [Utf8.toNat_byte (by omega)] at value
      rw [List.flatMap_singleton, utf8EncodeChar_ascii ascii, List.singleton_append,
        percentBytes_cons _ _ other, ih, List.append_assoc, List.singleton_append]
    · rw [percentBytes_encoded, ih, List.append_assoc]

theorem percentBytes_percentChars {keep : Char → Bool} (plain : Keeps keep) (s : List Char) :
    percentBytes ((percentChars keep s).flatMap String.utf8EncodeChar) =
      s.flatMap String.utf8EncodeChar := by
  have done : percentBytes [] = [] := rfl
  have read := percentBytes_percentChars_append plain s []
  rwa [done, List.append_nil, List.append_nil] at read

/-- A text comes back from its encoded form. -/
theorem percentDecode?_percentChars {keep : Char → Bool} (plain : Keeps keep) (s : String) :
    percentDecode? (percentChars keep s.toList) = some s := by
  rw [percentDecode?, utf8, String.toList_ofList, percentBytes_percentChars plain]
  exact Utf8.decode?_utf8 s

/-- What an encoded text consists of. -/
theorem mem_percentChars {keep : Char → Bool} {s : List Char} {c : Char}
    (mem : c ∈ percentChars keep s) :
    (c ∈ s ∧ keep c) ∨ c = '%' ∨ ∃ n < 16, c = upperHex n := by
  obtain ⟨d, here, mem⟩ := List.mem_flatMap.mp mem
  split at mem
  · rename_i kept
    obtain rfl := List.mem_singleton.mp mem
    exact .inl ⟨here, kept⟩
  · obtain ⟨b, -, mem⟩ := List.mem_flatMap.mp mem
    have bound := b.toNat_lt
    simp only [percentByte, List.mem_cons, List.not_mem_nil, or_false] at mem
    rcases mem with rfl | rfl | rfl
    · exact .inr (.inl rfl)
    · exact .inr (.inr ⟨_, by omega, rfl⟩)
    · exact .inr (.inr ⟨_, by omega, rfl⟩)

/-- Texts of characters that are allowed and of percent signs, each with two digits. -/
inductive Escaped (allowed : Char → Prop) : List Char → Prop where
  | nil : Escaped allowed []
  | plain {c : Char} {s : List Char} : allowed c → Escaped allowed s → Escaped allowed (c :: s)
  | byte {high low : Char} {s : List Char} : high ∈ "0123456789ABCDEF".toList →
      low ∈ "0123456789ABCDEF".toList → Escaped allowed s →
      Escaped allowed ('%' :: high :: low :: s)

theorem upperHex_mem {n : Nat} (small : n < 16) : upperHex n ∈ "0123456789ABCDEF".toList := by
  revert n
  decide +kernel

theorem escaped_percentByte {allowed : Char → Prop} {s : List Char} (bytes : List UInt8)
    (rest : Escaped allowed s) : Escaped allowed (bytes.flatMap percentByte ++ s) := by
  induction bytes with
  | nil => exact rest
  | cons b bytes ih =>
    have bound := b.toNat_lt
    exact .byte (upperHex_mem (by omega)) (upperHex_mem (by omega)) ih

theorem escaped_percentChars {allowed : Char → Prop} {keep : Char → Bool}
    (kept : ∀ c, keep c → allowed c) (s : List Char) : Escaped allowed (percentChars keep s) := by
  induction s with
  | nil => exact .nil
  | cons c s ih =>
    rw [percentChars] at ih
    rw [percentChars, List.flatMap_cons]
    split
    · rename_i keeps
      exact .plain (kept c keeps) ih
    · exact escaped_percentByte _ ih

theorem percentChars_append (keep : Char → Bool) (s t : List Char) :
    percentChars keep (s ++ t) = percentChars keep s ++ percentChars keep t :=
  List.flatMap_append

theorem percentChars_eq_nil {keep : Char → Bool} {s : List Char}
    (empty : percentChars keep s = []) : s = [] := by
  cases s with
  | nil => rfl
  | cons c s =>
    rw [percentChars, List.flatMap_cons, List.append_eq_nil_iff] at empty
    have coded := empty.1
    split at coded
    · cases coded
    · rw [List.flatMap_eq_nil_iff] at coded
      obtain ⟨b, mem⟩ := List.exists_mem_of_ne_nil _ (String.utf8EncodeChar_ne_nil (c := c))
      exact absurd (coded b mem) (by simp [percentByte])

/-- Where encoded texts go on to one text, one of the texts starts the other. -/
theorem starts_of_percentChars_append {keep : Char → Bool} (plain : Keeps keep)
    {s t x y : List Char} (same : percentChars keep s ++ x = percentChars keep t ++ y) :
    s <+: t ∨ t <+: s := by
  have bytes := congrArg (fun text => percentBytes (text.flatMap String.utf8EncodeChar)) same
  simp only [List.flatMap_append, percentBytes_percentChars_append plain] at bytes
  have read := congrArg Utf8.scan bytes
  rw [Utf8.scan_utf8_append, Utf8.scan_utf8_append] at read
  have first := read ▸ List.prefix_append (s.map some) _
  have injective := Option.some_injective Char
  rcases List.prefix_or_prefix_of_prefix first (List.prefix_append _ _) with starts | starts
  · exact .inl ((List.prefix_map_iff_of_injective injective).mp starts)
  · exact .inr ((List.prefix_map_iff_of_injective injective).mp starts)

theorem percentChars_eq_self {keep : Char → Bool} {s : List Char} (kept : ∀ c ∈ s, keep c) :
    percentChars keep s = s := by
  induction s with
  | nil => rfl
  | cons c s ih =>
    rw [percentChars] at ih
    rw [percentChars, List.flatMap_cons, if_pos (kept c List.mem_cons_self),
      ih fun d mem => kept d (List.mem_cons_of_mem _ mem), List.singleton_append]

section Segments

/-- What all that stands in an encoded segment is: characters without a meaning of their own, and
percent signs. -/
theorem unreserved_of_mem {s : List Char} {c : Char} (mem : c ∈ percentChars unreserved s) :
    unreserved c ∨ c = '%' := by
  rcases mem_percentChars mem with ⟨-, kept⟩ | sign | ⟨n, small, rfl⟩
  · exact .inl kept
  · exact .inr sign
  · have all : ∀ n < 16, unreserved (upperHex n) := by decide +kernel
    exact .inl (all n small)

theorem keeps_unreserved : Keeps unreserved := by
  intro c kept
  simp only [unreserved, Char.isAlphanum, Char.isAlpha, Char.isUpper, Char.isLower, Char.isDigit,
    Bool.or_eq_true, Bool.and_eq_true, decide_eq_true_eq, beq_iff_eq] at kept
  constructor
  · rcases kept with ((((((kept | kept) | kept) | rfl) | rfl) | rfl) | rfl)
    · exact Nat.lt_of_le_of_lt (UInt32.le_iff_toNat_le.mp kept.2) (by decide)
    · exact Nat.lt_of_le_of_lt (UInt32.le_iff_toNat_le.mp kept.2) (by decide)
    · exact Nat.lt_of_le_of_lt (UInt32.le_iff_toNat_le.mp kept.2) (by decide)
    all_goals decide
  · rintro rfl
    revert kept
    decide

end Segments

end ServiceClient.Text
