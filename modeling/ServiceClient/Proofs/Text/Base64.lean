import ServiceClient.Text.Base64
import ServiceClient.Text.Blank
import ServiceClient.Proofs.Text.Utf8

/-! Base 64 read back: a text is read exactly if it is the one that encodes the bytes read, whatever
their number, and it holds no white space. -/

namespace ServiceClient.Text.Base64
open Utf8 (ofNat_byte toNat_byte)

theorem value?_digit {n : Nat} (small : n < 64) : value? (digit n) = some n := by
  have each : ∀ n : Fin 64, value? (digit n) = some n.val := by decide +kernel
  exact each ⟨n, small⟩

theorem digit_plain {n : Nat} (small : n < 64) : digit n ≠ '=' ∧ isBlank (digit n) = false := by
  have each : ∀ n : Fin 64, digit n ≠ '=' ∧ isBlank (digit n) = false := by decide +kernel
  exact each ⟨n, small⟩

theorem toNat_of_isUpper {c : Char} (upper : c.isUpper) : 65 ≤ c.toNat ∧ c.toNat ≤ 90 := by
  have bounds : 65 ≤ c.val ∧ c.val ≤ 90 := of_decide_eq_true upper
  exact bounds.imp UInt32.le_iff_toNat_le.mp UInt32.le_iff_toNat_le.mp

theorem toNat_of_isLower {c : Char} (lower : c.isLower) : 97 ≤ c.toNat ∧ c.toNat ≤ 122 := by
  have both : (decide (97 ≤ c.val) && decide (c.val ≤ 122)) = true := lower
  have bounds : 97 ≤ c.val ∧ c.val ≤ 122 := by simpa using both
  exact bounds.imp UInt32.le_iff_toNat_le.mp UInt32.le_iff_toNat_le.mp

/-- A digit is the only one of its value. -/
theorem digit_of_value? {c : Char} {n : Nat} (value : value? c = some n) :
    n < 64 ∧ digit n = c := by
  have same : Char.ofNat c.toNat = c := Char.ofNat_toNat c
  unfold value? at value
  split at value
  · rename_i upper
    have range := toNat_of_isUpper upper
    obtain rfl : c.toNat - 65 = n := Option.some.inj value
    have back : 65 + (c.toNat - 65) = c.toNat := by omega
    rw [digit, if_pos (by omega), back]
    exact ⟨by omega, same⟩
  split at value
  · rename_i lower
    have range := toNat_of_isLower lower
    obtain rfl : c.toNat - 71 = n := Option.some.inj value
    have back : 71 + (c.toNat - 71) = c.toNat := by omega
    rw [digit, if_neg (by omega), if_pos (by omega), back]
    exact ⟨by omega, same⟩
  split at value
  · rename_i number
    have range : 48 ≤ c.toNat ∧ c.toNat ≤ 57 := Char.isDigit_iff_toNat.mp number
    obtain rfl : c.toNat + 4 = n := Option.some.inj value
    rw [digit, if_neg (by omega), if_neg (by omega), if_pos (by omega), Nat.add_sub_cancel]
    exact ⟨by omega, same⟩
  split at value
  · rename_i plus
    obtain rfl : 62 = n := Option.some.inj value
    exact ⟨by decide, (eq_of_beq plus).symm⟩
  split at value
  · rename_i slash
    obtain rfl : 63 = n := Option.some.inj value
    exact ⟨by decide, (eq_of_beq slash).symm⟩
  · cases value

/-! Groups of bytes, by the values of their digits. Only the last group is shorter than three. -/

section Groups
variable {i j k l : Nat} (first : i < 64) (second : j < 64)
include first second

theorem encode_one (rest : j % 16 = 0) :
    encode [UInt8.ofNat (i * 4 + j / 16)] = [digit i, digit j, '=', '='] := by
  have a : (UInt8.ofNat (i * 4 + j / 16)).toNat = i * 4 + j / 16 := toNat_byte (by omega)
  have high : (i * 4 + j / 16) / 4 = i := by omega
  have low : (i * 4 + j / 16) % 4 * 16 = j := by omega
  rw [encode, a, high, low]

theorem decode_one (rest : j % 16 = 0) :
    decode [digit i, digit j, '=', '='] = some [UInt8.ofNat (i * 4 + j / 16)] := by
  simp only [decode, decodeLast, value?_digit first, value?_digit second, bind, Option.bind_some,
    beq_self_eq_true, Bool.and_self, if_true, rest]

theorem encode_two (third : k < 64) (rest : k % 4 = 0) :
    encode [UInt8.ofNat (i * 4 + j / 16), UInt8.ofNat (j % 16 * 16 + k / 4)] =
      [digit i, digit j, digit k, '='] := by
  have a : (UInt8.ofNat (i * 4 + j / 16)).toNat = i * 4 + j / 16 := toNat_byte (by omega)
  have b : (UInt8.ofNat (j % 16 * 16 + k / 4)).toNat = j % 16 * 16 + k / 4 := toNat_byte (by omega)
  have high : (i * 4 + j / 16) / 4 = i := by omega
  have middle : (i * 4 + j / 16) % 4 * 16 + (j % 16 * 16 + k / 4) / 16 = j := by omega
  have low : (j % 16 * 16 + k / 4) % 16 * 4 = k := by omega
  rw [encode, a, b, high, middle, low]

theorem decode_two (third : k < 64) (rest : k % 4 = 0) :
    decode [digit i, digit j, digit k, '='] =
      some [UInt8.ofNat (i * 4 + j / 16), UInt8.ofNat (j % 16 * 16 + k / 4)] := by
  have plain : (digit k == '=') = false := beq_eq_false_iff_ne.mpr (digit_plain third).1
  simp only [decode, decodeLast, value?_digit first, value?_digit second, value?_digit third, bind,
    Option.bind_some, plain, Bool.false_and, Bool.false_eq_true, if_false, beq_self_eq_true,
    if_true, rest]

theorem encode_three (third : k < 64) (fourth : l < 64) (bytes : List UInt8) :
    encode (UInt8.ofNat (i * 4 + j / 16) :: UInt8.ofNat (j % 16 * 16 + k / 4) ::
      UInt8.ofNat (k % 4 * 64 + l) :: bytes) =
      digit i :: digit j :: digit k :: digit l :: encode bytes := by
  have a : (UInt8.ofNat (i * 4 + j / 16)).toNat = i * 4 + j / 16 := toNat_byte (by omega)
  have b : (UInt8.ofNat (j % 16 * 16 + k / 4)).toNat = j % 16 * 16 + k / 4 := toNat_byte (by omega)
  have c : (UInt8.ofNat (k % 4 * 64 + l)).toNat = k % 4 * 64 + l := toNat_byte (by omega)
  have highest : (i * 4 + j / 16) / 4 = i := by omega
  have high : (i * 4 + j / 16) % 4 * 16 + (j % 16 * 16 + k / 4) / 16 = j := by omega
  have low : (j % 16 * 16 + k / 4) % 16 * 4 + (k % 4 * 64 + l) / 64 = k := by omega
  have lowest : (k % 4 * 64 + l) % 64 = l := by omega
  rw [encode, a, b, c, highest, high, low, lowest]

/-- A whole group is read alike at the end of a text and before more of it. -/
theorem decode_three (third : k < 64) (fourth : l < 64) {s : List Char} {bytes : List UInt8}
    (later : decode s = some bytes) :
    decode (digit i :: digit j :: digit k :: digit l :: s) =
      some (UInt8.ofNat (i * 4 + j / 16) :: UInt8.ofNat (j % 16 * 16 + k / 4) ::
        UInt8.ofNat (k % 4 * 64 + l) :: bytes) := by
  have plain : (digit k == '=') = false := beq_eq_false_iff_ne.mpr (digit_plain third).1
  have plain' : (digit l == '=') = false := beq_eq_false_iff_ne.mpr (digit_plain fourth).1
  cases s with
  | nil =>
    obtain rfl := Option.some.inj later
    simp only [decode, decodeLast, value?_digit first, value?_digit second, value?_digit third,
      value?_digit fourth, bind, Option.bind_some, plain, plain', Bool.false_and,
      Bool.false_eq_true, if_false]
  | cons c s =>
    simp only [decode, decodeFull, value?_digit first, value?_digit second, value?_digit third,
      value?_digit fourth, bind, Option.bind_some, later]
    rfl

end Groups

theorem exists_digits_one (a : UInt8) : ∃ i j, i < 64 ∧ j < 64 ∧ j % 16 = 0 ∧
    UInt8.ofNat (i * 4 + j / 16) = a := by
  have range := a.toNat_lt
  exact ⟨a.toNat / 4, a.toNat % 4 * 16, by omega, by omega, by omega, ofNat_byte (by omega)⟩

theorem exists_digits_two (a b : UInt8) : ∃ i j k, i < 64 ∧ j < 64 ∧ k < 64 ∧ k % 4 = 0 ∧
    UInt8.ofNat (i * 4 + j / 16) = a ∧ UInt8.ofNat (j % 16 * 16 + k / 4) = b := by
  have range := And.intro a.toNat_lt b.toNat_lt
  exact ⟨a.toNat / 4, a.toNat % 4 * 16 + b.toNat / 16, b.toNat % 16 * 4, by omega, by omega,
    by omega, by omega, ofNat_byte (by omega), ofNat_byte (by omega)⟩

theorem exists_digits_three (a b c : UInt8) : ∃ i j k l, i < 64 ∧ j < 64 ∧ k < 64 ∧ l < 64 ∧
    UInt8.ofNat (i * 4 + j / 16) = a ∧ UInt8.ofNat (j % 16 * 16 + k / 4) = b ∧
    UInt8.ofNat (k % 4 * 64 + l) = c := by
  have range := And.intro a.toNat_lt (And.intro b.toNat_lt c.toNat_lt)
  exact ⟨a.toNat / 4, a.toNat % 4 * 16 + b.toNat / 16, b.toNat % 16 * 4 + c.toNat / 64,
    c.toNat % 64, by omega, by omega, by omega, by omega, ofNat_byte (by omega),
    ofNat_byte (by omega), ofNat_byte (by omega)⟩

theorem encode_of_decodeLast {w x y z : Char} {bytes : List UInt8}
    (read : decodeLast w x y z = some bytes) : encode bytes = [w, x, y, z] := by
  simp only [decodeLast, bind, Option.bind_eq_some_iff] at read
  obtain ⟨i, value, j, value', read⟩ := read
  obtain ⟨first, rfl⟩ := digit_of_value? value
  obtain ⟨second, rfl⟩ := digit_of_value? value'
  split at read
  · rename_i padding
    obtain ⟨rfl, rfl⟩ : y = '=' ∧ z = '=' := by simpa using padding
    split at read
    · obtain rfl := Option.some.inj read
      exact encode_one first second ‹_›
    · cases read
  · rw [Option.bind_eq_some_iff] at read
    obtain ⟨k, value, read⟩ := read
    obtain ⟨third, rfl⟩ := digit_of_value? value
    split at read
    · rename_i padding
      obtain rfl := eq_of_beq padding
      split at read
      · obtain rfl := Option.some.inj read
        exact encode_two first second third ‹_›
      · cases read
    · rw [Option.bind_eq_some_iff] at read
      obtain ⟨l, value, made⟩ := read
      obtain ⟨fourth, rfl⟩ := digit_of_value? value
      obtain rfl := Option.some.inj made
      exact encode_three first second third fourth []

theorem encode_of_decodeFull {w x y z : Char} {group : List UInt8}
    (read : decodeFull w x y z = some group) (bytes : List UInt8) :
    encode (group ++ bytes) = w :: x :: y :: z :: encode bytes := by
  simp only [decodeFull, bind, Option.bind_eq_some_iff] at read
  obtain ⟨i, valueI, j, valueJ, k, valueK, l, valueL, made⟩ := read
  obtain ⟨first, rfl⟩ := digit_of_value? valueI
  obtain ⟨second, rfl⟩ := digit_of_value? valueJ
  obtain ⟨third, rfl⟩ := digit_of_value? valueK
  obtain ⟨fourth, rfl⟩ := digit_of_value? valueL
  obtain rfl := Option.some.inj made
  exact encode_three first second third fourth bytes

theorem encode_of_decode {s : List Char} {bytes : List UInt8} (read : decode s = some bytes) :
    encode bytes = s := by
  fun_induction decode s generalizing bytes with
  | case1 =>
    obtain rfl := Option.some.inj read
    rfl
  | case2 => exact encode_of_decodeLast read
  | case3 w x y z s _ ih =>
    obtain ⟨group, full, read⟩ := Option.bind_eq_some_iff.mp read
    obtain ⟨rest, later, made⟩ := Option.bind_eq_some_iff.mp read
    obtain rfl := Option.some.inj made
    rw [encode_of_decodeFull full, ih later]
  | case4 => cases read

theorem decode_encode (bytes : List UInt8) : decode (encode bytes) = some bytes := by
  induction bytes using encode.induct with
  | case1 => rfl
  | case2 a =>
    obtain ⟨i, j, first, second, rest, rfl⟩ := exists_digits_one a
    rw [encode_one first second rest, decode_one first second rest]
  | case3 a b =>
    obtain ⟨i, j, k, first, second, third, rest, rfl, rfl⟩ := exists_digits_two a b
    rw [encode_two first second third rest, decode_two first second third rest]
  | case4 a b c bytes ih =>
    obtain ⟨i, j, k, l, first, second, third, fourth, rfl, rfl, rfl⟩ := exists_digits_three a b c
    rw [encode_three first second third fourth, decode_three first second third fourth ih]

/-- Every text that is read is the one written for its bytes. -/
theorem decode_eq_some_iff {s : List Char} {bytes : List UInt8} :
    decode s = some bytes ↔ s = encode bytes :=
  ⟨fun read => (encode_of_decode read).symm, fun same => same ▸ decode_encode bytes⟩

theorem isBlank_of_mem_encode {bytes : List UInt8} : ∀ c ∈ encode bytes, isBlank c = false := by
  have padding : isBlank '=' = false := by decide
  induction bytes using encode.induct with
  | case1 => exact nofun
  | case2 a =>
    obtain ⟨i, j, first, second, rest, rfl⟩ := exists_digits_one a
    rw [encode_one first second rest]
    simp [digit_plain, first, second, padding]
  | case3 a b =>
    obtain ⟨i, j, k, first, second, third, rest, rfl, rfl⟩ := exists_digits_two a b
    rw [encode_two first second third rest]
    simp [digit_plain, first, second, third, padding]
  | case4 a b c bytes ih =>
    obtain ⟨i, j, k, l, first, second, third, fourth, rfl, rfl, rfl⟩ := exists_digits_three a b c
    rw [encode_three first second third fourth]
    simp only [List.forall_mem_cons, digit_plain first, digit_plain second, digit_plain third,
      digit_plain fourth, true_and]
    exact ih

end ServiceClient.Text.Base64
