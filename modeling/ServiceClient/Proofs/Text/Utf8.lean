import ServiceClient.Text.Utf8
import Mathlib.Data.List.Basic

/-! UTF-8 read back: the bytes of a text spell that text and no other bytes do, and a byte below
0x80 stands only for the character of its value. -/

namespace ServiceClient.Text.Utf8

theorem toNat_byte {n : Nat} (h : n < 256) : (UInt8.ofNat n).toNat = n := by
  simpa using Nat.mod_eq_of_lt h

theorem toNat_tail (n : Nat) : (UInt8.ofNat (n % 0x40 + 0x80)).toNat = n % 0x40 + 0x80 :=
  toNat_byte (by omega)

section Second
variable {a b : UInt8}

/-- A second byte whose least value is higher after one first byte, and whose greatest is lower
after another. -/
theorem second_iff {low high least most : UInt8} (apart : low ≠ high) (above : 0x80 ≤ least.toNat)
    (below : most.toNat ≤ 0xBF) :
    (if a == low then least ≤ b && b ≤ 0xBF
      else if a == high then 0x80 ≤ b && b ≤ most else tail b) = true ↔
      0x80 ≤ b.toNat ∧ b.toNat ≤ 0xBF ∧ (a.toNat = low.toNat → least.toNat ≤ b.toNat) ∧
        (a.toNat = high.toNat → b.toNat ≤ most.toNat) := by
  simp only [tail, beq_iff_eq, UInt8.toNat_inj]
  by_cases first : a = low
  · rw [if_pos first]
    simp only [first, apart, Bool.and_eq_true, decide_eq_true_eq, UInt8.le_iff_toNat_le,
      UInt8.reduceToNat, eq_self, true_implies, false_implies, and_true]
    omega
  · by_cases last : a = high
    · rw [if_neg first, if_pos last]
      simp only [last, Ne.symm apart, Bool.and_eq_true, decide_eq_true_eq, UInt8.le_iff_toNat_le,
        UInt8.reduceToNat, eq_self, true_implies, false_implies, true_and]
      omega
    · rw [if_neg first, if_neg last]
      simp only [first, last, Bool.and_eq_true, decide_eq_true_eq, UInt8.le_iff_toNat_le,
        UInt8.reduceToNat, false_implies, and_true]

/-- The second byte after 0xE0 starts higher, that after 0xED ends lower. -/
theorem second3_iff : second3 a b ↔ 0x80 ≤ b.toNat ∧ b.toNat ≤ 0xBF ∧
    (a.toNat = 0xE0 → 0xA0 ≤ b.toNat) ∧ (a.toNat = 0xED → b.toNat ≤ 0x9F) :=
  second_iff (by decide) (by decide) (by decide)

/-- The second byte after 0xF0 starts higher, that after 0xF4 ends lower. -/
theorem second4_iff : second4 a b ↔ 0x80 ≤ b.toNat ∧ b.toNat ≤ 0xBF ∧
    (a.toNat = 0xF0 → 0x90 ≤ b.toNat) ∧ (a.toNat = 0xF4 → b.toNat ≤ 0x8F) :=
  second_iff (by decide) (by decide) (by decide)

end Second

section Scan
variable {a b c d : UInt8} (rest : List UInt8)

theorem scan_one (first : a.toNat < 0x80) :
    scan (a :: rest) = some (Char.ofNat a.toNat) :: scan rest := by
  rw [scan.eq_def]
  simp [UInt8.lt_iff_toNat_lt, first]

theorem scan_two (first : 0xC2 ≤ a.toNat ∧ a.toNat ≤ 0xDF)
    (second : 0x80 ≤ b.toNat ∧ b.toNat ≤ 0xBF) :
    scan (a :: b :: rest) = some (join 5 a [b]) :: scan rest := by
  have high : ¬a.toNat < 0x80 := by omega
  rw [scan.eq_def]
  simp [UInt8.lt_iff_toNat_lt, UInt8.le_iff_toNat_le, tail, first, second, high]

theorem scan_three (first : 0xE0 ≤ a.toNat ∧ a.toNat ≤ 0xEF) (second : second3 a b)
    (third : 0x80 ≤ c.toNat ∧ c.toNat ≤ 0xBF) :
    scan (a :: b :: c :: rest) = some (join 4 a [b, c]) :: scan rest := by
  have high : ¬a.toNat < 0x80 := by omega
  have more : ¬a.toNat ≤ 0xDF := by omega
  rw [scan.eq_def]
  simp [UInt8.lt_iff_toNat_lt, UInt8.le_iff_toNat_le, tail, first, second, third, high, more]

theorem scan_four (first : 0xF0 ≤ a.toNat ∧ a.toNat ≤ 0xF4) (second : second4 a b)
    (third : 0x80 ≤ c.toNat ∧ c.toNat ≤ 0xBF) (fourth : 0x80 ≤ d.toNat ∧ d.toNat ≤ 0xBF) :
    scan (a :: b :: c :: d :: rest) = some (join 3 a [b, c, d]) :: scan rest := by
  have high : ¬a.toNat < 0x80 := by omega
  have more : ¬a.toNat ≤ 0xDF := by omega
  have most : ¬a.toNat ≤ 0xEF := by omega
  rw [scan.eq_def]
  simp [UInt8.lt_iff_toNat_lt, UInt8.le_iff_toNat_le, tail, first, second, third, fourth, high,
    more, most]

end Scan

/-- One character's bytes spell it, whatever follows. -/
theorem scan_utf8EncodeChar (c : Char) (rest : List UInt8) :
    scan (String.utf8EncodeChar c ++ rest) = some c :: scan rest := by
  have valid : c.toNat < 0xD800 ∨ 0xDFFF < c.toNat ∧ c.toNat < 0x110000 := c.valid
  have whole : Char.ofNat c.toNat = c := Char.ofNat_toNat c
  have value : c.val.toNat = c.toNat := rfl
  simp only [String.utf8EncodeChar, value]
  generalize c.toNat = v at *
  have last := toNat_tail v
  have middle := toNat_tail (v / 64)
  have upper := toNat_tail (v / 4096)
  split
  · have first : (UInt8.ofNat v).toNat = v := toNat_byte (by omega)
    rw [List.singleton_append, scan_one _ (by omega), first, whole]
  split
  · have first : (UInt8.ofNat (v / 64 % 0x20 + 0xC0)).toNat = v / 64 % 0x20 + 0xC0 :=
      toNat_byte (by omega)
    have power : Nat.pow 2 5 = 0x20 := rfl
    have joined : ((v / 64 % 0x20 + 0xC0) % 0x20) * 64 + (v % 0x40 + 0x80) % 64 = v := by omega
    rw [List.cons_append, List.singleton_append, scan_two _ (by omega) (by omega)]
    simp only [join, power, first, last, List.foldl_cons, List.foldl_nil, joined, whole]
  split
  · have first : (UInt8.ofNat (v / 4096 % 0x10 + 0xE0)).toNat = v / 4096 % 0x10 + 0xE0 :=
      toNat_byte (by omega)
    have power : Nat.pow 2 4 = 0x10 := rfl
    have joined : (((v / 4096 % 0x10 + 0xE0) % 0x10) * 64 + (v / 64 % 0x40 + 0x80) % 64) * 64 +
        (v % 0x40 + 0x80) % 64 = v := by omega
    have allowed : second3 (UInt8.ofNat (v / 4096 % 0x10 + 0xE0))
        (UInt8.ofNat (v / 64 % 0x40 + 0x80)) := second3_iff.mpr (by omega)
    simp only [List.cons_append, List.nil_append]
    rw [scan_three _ (by omega) allowed (by omega)]
    simp only [join, power, first, middle, last, List.foldl_cons, List.foldl_nil, joined, whole]
  · have first : (UInt8.ofNat (v / 262144 % 0x08 + 0xF0)).toNat = v / 262144 % 0x08 + 0xF0 :=
      toNat_byte (by omega)
    have power : Nat.pow 2 3 = 0x08 := rfl
    have joined : ((((v / 262144 % 0x08 + 0xF0) % 0x08) * 64 + (v / 4096 % 0x40 + 0x80) % 64) * 64 +
        (v / 64 % 0x40 + 0x80) % 64) * 64 + (v % 0x40 + 0x80) % 64 = v := by omega
    have allowed : second4 (UInt8.ofNat (v / 262144 % 0x08 + 0xF0))
        (UInt8.ofNat (v / 4096 % 0x40 + 0x80)) := second4_iff.mpr (by omega)
    simp only [List.cons_append, List.nil_append]
    rw [scan_four _ (by omega) allowed (by omega) (by omega)]
    simp only [join, power, first, upper, middle, last, List.foldl_cons, List.foldl_nil, joined,
      whole]

theorem scan_utf8_append (chars : List Char) (rest : List UInt8) :
    scan (chars.flatMap String.utf8EncodeChar ++ rest) = chars.map some ++ scan rest := by
  induction chars with
  | nil => rfl
  | cons c chars ih =>
    rw [List.flatMap_cons, List.append_assoc, scan_utf8EncodeChar, ih, List.map_cons,
      List.cons_append]

theorem scan_utf8 (chars : List Char) :
    scan (chars.flatMap String.utf8EncodeChar) = chars.map some := by
  have done : scan [] = [] := by rw [scan.eq_def]
  have read := scan_utf8_append chars []
  rwa [done, List.append_nil, List.append_nil] at read

/-- The bytes of a text are read as that text. -/
theorem decode?_utf8 (s : String) : decode? (utf8 s) = some s := by
  have all : (s.toList.map some).mapM id = some s.toList := by
    induction s.toList with
    | nil => rfl
    | cons c chars ih => rw [List.map_cons, List.mapM_cons, ih]; rfl
  rw [decode?, utf8, scan_utf8, all, Option.map_some, String.ofList_toList]

theorem toNat_ofNat {n : Nat} (valid : n < 0xD800 ∨ 0xDFFF < n ∧ n < 0x110000) :
    (Char.ofNat n).val.toNat = n := by
  have scalar : n.isValidChar := valid
  rw [Char.ofNat, dif_pos scalar]
  rfl

theorem ofNat_byte {a : UInt8} {n : Nat} (value : n = a.toNat) : UInt8.ofNat n = a := by
  rw [value, UInt8.ofNat_toNat]

theorem toNat_of_tail {b : UInt8} (more : tail b) : 0x80 ≤ b.toNat ∧ b.toNat ≤ 0xBF := by
  simpa [tail, UInt8.le_iff_toNat_le] using more

section Encode
variable {a b c d : UInt8}

theorem encode_one (first : a.toNat < 0x80) : String.utf8EncodeChar (Char.ofNat a.toNat) = [a] := by
  have value : (Char.ofNat a.toNat).val.toNat = a.toNat := toNat_ofNat (by omega)
  simp only [String.utf8EncodeChar, value]
  rw [if_pos (by omega), ofNat_byte rfl]

theorem encode_two (first : 0xC2 ≤ a.toNat ∧ a.toNat ≤ 0xDF) (second : tail b) :
    String.utf8EncodeChar (join 5 a [b]) = [a, b] := by
  have power : Nat.pow 2 5 = 0x20 := rfl
  have low := toNat_of_tail second
  have value : (join 5 a [b]).val.toNat = a.toNat % 0x20 * 64 + b.toNat % 64 := by
    simp only [join, power, List.foldl_cons, List.foldl_nil]
    exact toNat_ofNat (by omega)
  simp only [String.utf8EncodeChar, value]
  rw [if_neg (by omega), if_pos (by omega), @ofNat_byte a _ (by omega), @ofNat_byte b _ (by omega)]

theorem encode_three (first : 0xE0 ≤ a.toNat ∧ a.toNat ≤ 0xEF) (second : second3 a b)
    (third : tail c) : String.utf8EncodeChar (join 4 a [b, c]) = [a, b, c] := by
  have power : Nat.pow 2 4 = 0x10 := rfl
  have middle := second3_iff.mp second
  have low := toNat_of_tail third
  have value : (join 4 a [b, c]).val.toNat =
      (a.toNat % 0x10 * 64 + b.toNat % 64) * 64 + c.toNat % 64 := by
    simp only [join, power, List.foldl_cons, List.foldl_nil]
    exact toNat_ofNat (by omega)
  simp only [String.utf8EncodeChar, value]
  rw [if_neg (by omega), if_neg (by omega), if_pos (by omega), @ofNat_byte a _ (by omega),
    @ofNat_byte b _ (by omega), @ofNat_byte c _ (by omega)]

theorem encode_four (first : 0xF0 ≤ a.toNat ∧ a.toNat ≤ 0xF4) (second : second4 a b)
    (third : tail c) (fourth : tail d) :
    String.utf8EncodeChar (join 3 a [b, c, d]) = [a, b, c, d] := by
  have power : Nat.pow 2 3 = 0x08 := rfl
  have high := second4_iff.mp second
  have middle := toNat_of_tail third
  have low := toNat_of_tail fourth
  have value : (join 3 a [b, c, d]).val.toNat =
      ((a.toNat % 0x08 * 64 + b.toNat % 64) * 64 + c.toNat % 64) * 64 + d.toNat % 64 := by
    simp only [join, power, List.foldl_cons, List.foldl_nil]
    exact toNat_ofNat (by omega)
  simp only [String.utf8EncodeChar, value]
  rw [if_neg (by omega), if_neg (by omega), if_neg (by omega), @ofNat_byte a _ (by omega),
    @ofNat_byte b _ (by omega), @ofNat_byte c _ (by omega), @ofNat_byte d _ (by omega)]

end Encode

/-- Bytes without an ill-formed part are those of the characters read. -/
theorem eq_of_scan {bytes : List UInt8} {chars : List Char} (read : scan bytes = chars.map some) :
    bytes = chars.flatMap String.utf8EncodeChar := by
  -- One character at a time; where the part at the head is ill-formed, no character is read.
  fun_induction scan bytes generalizing chars <;> cases chars
  all_goals try cases read
  case case1.nil.refl => rfl
  case case2.cons a rest one ih c chars =>
    obtain ⟨rfl, rest⟩ := by simpa using read
    rw [List.flatMap_cons, ← ih rest, encode_one (UInt8.lt_iff_toNat_lt.mp one)]
    rfl
  case case4.cons a _ two b rest second ih c chars =>
    obtain ⟨rfl, rest⟩ := by simpa using read
    rw [List.flatMap_cons, ← ih rest,
      encode_two (by simpa [UInt8.le_iff_toNat_le] using two) second]
    rfl
  case case8.cons a _ _ three b second c rest third ih d chars =>
    obtain ⟨rfl, rest⟩ := by simpa using read
    rw [List.flatMap_cons, ← ih rest,
      encode_three (by simpa [UInt8.le_iff_toNat_le] using three) second third]
    rfl
  case case14.cons a _ _ _ four b second c third d rest fourth ih e chars =>
    obtain ⟨rfl, rest⟩ := by simpa using read
    rw [List.flatMap_cons, ← ih rest,
      encode_four (by simpa [UInt8.le_iff_toNat_le] using four) second third fourth]
    rfl

theorem map_some_of_mapM_id {α : Type} {xs : List (Option α)} {ys : List α}
    (present : xs.mapM id = some ys) : xs = ys.map some := by
  induction xs generalizing ys with
  | nil => simpa using present
  | cons x xs ih =>
    rw [List.mapM_cons] at present
    obtain ⟨y, rfl, rest⟩ := Option.bind_eq_some_iff.mp present
    obtain ⟨zs, later, made⟩ := Option.bind_eq_some_iff.mp rest
    cases made
    rw [List.map_cons, ← ih later]

/-- Bytes are read as a text exactly if they are the bytes of it. -/
theorem decode?_eq_some_iff {bytes : List UInt8} {s : String} :
    decode? bytes = some s ↔ bytes = utf8 s := by
  refine ⟨fun read => ?_, fun same => same ▸ decode?_utf8 s⟩
  obtain ⟨chars, present, rfl⟩ := Option.map_eq_some_iff.mp read
  rw [utf8, String.toList_ofList]
  exact eq_of_scan (map_some_of_mapM_id present)

/-- Bytes below 0x80 are characters of their own. -/
theorem eq_of_mem_utf8EncodeChar {c : Char} {b : UInt8} (mem : b ∈ String.utf8EncodeChar c)
    (low : b.toNat < 0x80) : b.toNat = c.toNat := by
  have value : c.val.toNat = c.toNat := rfl
  simp only [String.utf8EncodeChar, value] at mem
  split at mem
  · rw [List.mem_singleton.mp mem, toNat_byte (by omega)]
  split at mem
  · simp only [List.mem_cons, List.not_mem_nil, or_false] at mem
    rcases mem with rfl | rfl <;> rw [toNat_byte (by omega)] at low <;> omega
  split at mem
  · simp only [List.mem_cons, List.not_mem_nil, or_false] at mem
    rcases mem with rfl | rfl | rfl <;> rw [toNat_byte (by omega)] at low <;> omega
  · simp only [List.mem_cons, List.not_mem_nil, or_false] at mem
    rcases mem with rfl | rfl | rfl | rfl <;> rw [toNat_byte (by omega)] at low <;> omega

end ServiceClient.Text.Utf8
