import ServiceClient.Proofs.Text.Base64
import ServiceClient.Proofs.Wire.Scalar

/-! The text of scalars. Text is taken as it is; integers, truth values and bytes are read back from
their own text with any white space around it, and bytes from no other text. An integer is read from
a number and from the text that denotes it alike, within the range of its kind. -/

namespace ServiceClient.Wire.Scalar
open ServiceClient.Number ServiceClient.Schema ServiceClient.Text

/-- The scalars that are read without the white space around them, numbers with a fraction apart. -/
inductive Trimmed : PrimitiveKind → Scalar → Prop
  | integer (n : Int32) : Trimmed .integer (integer n)
  | long (n : Int64) : Trimmed .long (long n)
  | boolean (b : Bool) : Trimmed .boolean (boolean b)
  | blob (bytes : List UInt8) : Trimmed .blob (blob bytes)

theorem ofJson_string (kind : PrimitiveKind) (field s : String) :
    ofJson kind field (.string s) = ofText kind field s := by
  rw [ofJson]

theorem Trimmed.read?_eq {kind : PrimitiveKind} {v : Scalar} (trimmed : Trimmed kind v) :
    read? kind v.toText.toList = some v := by
  cases trimmed with
  | integer n =>
    rw [toText, Int.toString_eq_repr, read?, word?_repr_of_fits (fits_int32 n), Option.map_some,
      Int32.ofInt_toInt]
  | long n =>
    rw [toText, Int.toString_eq_repr, read?, word?_repr_of_fits (fits_int64 n), Option.map_some,
      Int64.ofInt_toInt]
  | boolean b => cases b <;> rfl
  | blob bytes =>
    rw [toText, Base64.encodeText, String.toList_ofList, read?, Base64.decode_encode,
      Option.map_some]

theorem Trimmed.plain {kind : PrimitiveKind} {v : Scalar} (trimmed : Trimmed kind v) :
    ∀ c ∈ v.toText.toList, isBlank c = false := by
  cases trimmed with
  | integer n => exact fun c => isBlank_of_mem_repr
  | long n => exact fun c => isBlank_of_mem_repr
  | boolean b => cases b <;> simp [toText, isBlank]
  | blob bytes =>
    rw [toText, Base64.encodeText, String.toList_ofList]
    exact Base64.isBlank_of_mem_encode

/-- What a kind reads of the text, for kinds that read it without the white space around it. -/
theorem ofText_eq_ok {kind : PrimitiveKind} (string : kind ≠ .string)
    (timestamp : kind ≠ .timestamp) {field s : String} {v : Scalar} :
    ofText kind field s = .ok v ↔ read? kind (trimChars s.toList) = some v := by
  unfold ofText
  split
  · exact absurd rfl string
  · exact absurd rfl timestamp
  · split <;> simp_all

theorem Trimmed.ofText_eq {kind : PrimitiveKind} {v : Scalar} (trimmed : Trimmed kind v)
    {s : String} (around : Surrounded v.toText.toList s.toList) (field : String) :
    ofText kind field s = .ok v := by
  have string : kind ≠ .string := by
    rintro rfl
    cases trimmed
  have timestamp : kind ≠ .timestamp := by
    rintro rfl
    cases trimmed
  rw [ofText_eq_ok string timestamp, trimChars_of_surrounded around trimmed.plain]
  exact trimmed.read?_eq

/-- Every blob has one text, apart from the white space around it. -/
theorem ofText_blob {field s : String} {v : Scalar} :
    ofText .blob field s = .ok v ↔ ∃ bytes, v = blob bytes ∧ trim s = v.toText := by
  rw [@ofText_eq_ok .blob nofun nofun, read?, Option.map_eq_some_iff]
  constructor
  · rintro ⟨bytes, decoded, rfl⟩
    refine ⟨bytes, rfl, ?_⟩
    rw [trim, Base64.decode_eq_some_iff.mp decoded]
    rfl
  · rintro ⟨bytes, rfl, same⟩
    refine ⟨bytes, Base64.decode_eq_some_iff.mpr ?_, rfl⟩
    rw [← @String.toList_ofList (trimChars s.toList)]
    exact congrArg String.toList same |>.trans String.toList_ofList

/-- The text of a scalar is read back as the scalar, as text and as a JSON string: verbatim for
text, whatever the white space around it for the others. The blob of a text has that text. -/
theorem text_read_back (field : String) :
    (∀ kind v s, Trimmed kind v → Surrounded v.toText.toList s.toList →
      ofText kind field s = .ok v ∧ ofJson kind field (.string s) = .ok v) ∧
    (∀ kind s, kind = .string ∨ kind = .timestamp →
      ofText kind field (text s).toText = .ok (text s) ∧
      ofJson kind field (.string (text s).toText) = .ok (text s)) ∧
    (∀ s v, ofText .blob field s = .ok v ↔ ∃ bytes, v = blob bytes ∧ trim s = v.toText) := by
  refine ⟨fun kind v s trimmed around => ?_, fun kind s verbatim => ?_, fun s v => ofText_blob⟩
  · have read := trimmed.ofText_eq around field
    exact ⟨read, (ofJson_string ..).trans read⟩
  · have read := ofText_text verbatim field s
    exact ⟨read, (ofJson_string ..).trans read⟩

theorem padded_blob_read_back :
    Surrounded (toText (blob [255, 0])).toList "\u2003/wA=\r\n".toList ∧
    ofText .blob "data" "\u2003/wA=\r\n" = .ok (blob [255, 0]) ∧
    ofJson .blob "data" (.string "\u2003/wA=\r\n") = .ok (blob [255, 0]) := by
  have around : Surrounded (toText (blob [255, 0])).toList "\u2003/wA=\r\n".toList :=
    ⟨['\u2003'], ['\r', '\n'], by decide +kernel, List.all_eq_true.mp (by decide),
      List.all_eq_true.mp (by decide)⟩
  exact ⟨around, (text_read_back "data").1 .blob _ _ (.blob _) around⟩

/-- The bits of a kind of integers. -/
def width? : PrimitiveKind → Option Nat
  | .integer => some 32
  | .long => some 64
  | _ => none

/-- A scalar that is an integer of its kind. -/
inductive IsInteger : PrimitiveKind → Scalar → Int → Prop
  | integer (n : Int32) : IsInteger .integer (integer n) n.toInt
  | long (n : Int64) : IsInteger .long (long n) n.toInt

/-- The integers of a kind are those of its width. -/
theorem ofNumeral?_int_eq_some_iff {kind : PrimitiveKind} {bits : Nat}
    (sized : width? kind = some bits) {n : Int} {v : Scalar} :
    ofNumeral? kind (.int n) = some v ↔ IsInteger kind v n := by
  cases kind with
  | integer =>
    constructor
    · intro found
      obtain ⟨fit, ⟨⟩⟩ := Option.ite_none_right_eq_some.mp found
      have range := fits_iff.mp fit
      have same : (Int32.ofInt n).toInt = n := Int32.toInt_ofInt_of_le range.1 range.2
      have value := IsInteger.integer (Int32.ofInt n)
      rwa [same] at value
    · intro value
      cases value with
      | integer w => rw [ofNumeral?, if_pos (fits_int32 w), Int32.ofInt_toInt]
  | long =>
    constructor
    · intro found
      obtain ⟨fit, ⟨⟩⟩ := Option.ite_none_right_eq_some.mp found
      have range := fits_iff.mp fit
      have same : (Int64.ofInt n).toInt = n := Int64.toInt_ofInt_of_le range.1 range.2
      have value := IsInteger.long (Int64.ofInt n)
      rwa [same] at value
    · intro value
      cases value with
      | long w => rw [ofNumeral?, if_pos (fits_int64 w), Int64.ofInt_toInt]
  | _ => cases sized

section Integers
variable {kind : PrimitiveKind} {bits : Nat} (sized : width? kind = some bits) {field : String}
  {v : Scalar} {n : Int}
include sized

theorem exists_isInteger_iff :
    (∃ v, IsInteger kind v n) ↔ -2 ^ (bits - 1) ≤ n ∧ n < 2 ^ (bits - 1) := by
  simp only [← ofNumeral?_int_eq_some_iff sized, ← fits_iff]
  cases kind with
  | integer | long =>
    cases sized
    simp [ofNumeral?]
  | _ => cases sized

/-- Text is read as the number that it denotes is. -/
theorem read?_eq_some_iff {s : List Char} :
    read? kind s = some v ↔ ∃ n, Denotes s n ∧ IsInteger kind v n := by
  simp only [← ofNumeral?_int_eq_some_iff sized, ← integer?_eq_some_iff]
  cases kind with
  | integer | long => cases value : integer? s <;> simp [read?, word?, ofNumeral?, value]
  | _ => cases sized

theorem ofJson_int_eq_ok :
    ofJson kind field (.number (.int n)) = .ok v ↔ IsInteger kind v n := by
  rw [← ofNumeral?_int_eq_some_iff sized]
  cases kind with
  | integer | long =>
    simp only [ofJson, acceptable]
    split <;> simp_all
  | _ => cases sized

theorem ofJson_int_eq_error (other : ¬∃ v, IsInteger kind v n) :
    ofJson kind field (.number (.int n)) = .error (.invalidValue field (toString n) kind) := by
  simp only [← ofNumeral?_int_eq_some_iff sized, not_exists] at other
  have none : ofNumeral? kind (.int n) = none := Option.eq_none_iff_forall_ne_some.mpr other
  cases kind with
  | integer | long =>
    simp only [ofJson, acceptable, none]
    rfl
  | _ => cases sized

theorem ofText_integer_eq_ok {s : String} :
    ofText kind field s = .ok v ↔
      ∃ core n, Surrounded core s.toList ∧ Denotes core n ∧ IsInteger kind v n := by
  have string : kind ≠ .string := by
    rintro rfl
    cases sized
  have timestamp : kind ≠ .timestamp := by
    rintro rfl
    cases sized
  rw [ofText_eq_ok string timestamp, read?_eq_some_iff sized]
  constructor
  · rintro ⟨n, denotes, value⟩
    exact ⟨_, n, surrounded_trimChars _, denotes, value⟩
  · rintro ⟨core, n, around, denotes, value⟩
    rw [trimChars_of_surrounded around denotes.plain]
    exact ⟨n, denotes, value⟩

theorem ofText_toString_eq_ok : ofText kind field (toString n) = .ok v ↔ IsInteger kind v n := by
  have denotes : Denotes (toString n).toList n := by
    rw [Int.toString_eq_repr, ← integer?_eq_some_iff, integer?_repr]
  rw [ofText_integer_eq_ok sized]
  constructor
  · rintro ⟨core, k, around, other, value⟩
    have same : (toString n).toList = core :=
      trimChars_eq_self denotes.plain ▸ trimChars_of_surrounded around other.plain
    rw [← same, ← integer?_eq_some_iff, integer?_eq_some_iff.mpr denotes] at other
    cases other
    exact value
  · exact fun value => ⟨_, n, ⟨[], [], by simp, nofun, nofun⟩, denotes, value⟩

end Integers

/-- A number is read as itself if it is an integer of the kind, which those of the width are, and as
nothing else. Its decimal text and a string that holds it are read as the number is. Of all texts,
those are read that denote an integer of the kind, with white space around it or none. -/
theorem integers_read_exactly {kind : PrimitiveKind} {bits : Nat} (sized : width? kind = some bits)
    (field : String) :
    (∀ n, (∃ v, IsInteger kind v n) ↔ -2 ^ (bits - 1) ≤ n ∧ n < 2 ^ (bits - 1)) ∧
    (∀ n v, ofJson kind field (.number (.int n)) = .ok v ↔ IsInteger kind v n) ∧
    (∀ n, (¬∃ v, IsInteger kind v n) →
      ofJson kind field (.number (.int n)) =
        .error (.invalidValue field (toString n) kind)) ∧
    (∀ n v, ofJson kind field (.number (.int n)) = .ok v ↔
      ofText kind field (toString n) = .ok v) ∧
    (∀ n v, ofJson kind field (.number (.int n)) = .ok v ↔
      ofJson kind field (.string (toString n)) = .ok v) ∧
    ∀ s v, ofText kind field s = .ok v ↔
      ∃ core n, Surrounded core s.toList ∧ Denotes core n ∧ IsInteger kind v n := by
  have agree : ∀ n v, ofJson kind field (.number (.int n)) = .ok v ↔
      ofText kind field (toString n) = .ok v := fun n v =>
    (ofJson_int_eq_ok sized).trans (ofText_toString_eq_ok sized).symm
  refine ⟨fun n => exists_isInteger_iff sized, fun n v => ofJson_int_eq_ok sized,
    fun n => ofJson_int_eq_error sized, agree, fun n v => ?_, fun s v => ofText_integer_eq_ok sized⟩
  rw [ofJson_string]
  exact agree n v

theorem ends_of_int32_read :
    width? .integer = some 32 ∧
    ofText .integer "size" "\u00a0+02147483647\n" = .ok (integer 2147483647) ∧
    ofJson .integer "size" (.number (.int (-2147483648))) = .ok (integer (-2147483648)) ∧
    ofJson .integer "size" (.number (.int 2147483648)) =
      .error (.invalidValue "size" "2147483648" .integer) := by
  obtain ⟨range, number, refused, -, -, text⟩ :=
    @integers_read_exactly .integer 32 rfl "size"
  have greatest : Denotes "+02147483647".toList 2147483647 :=
    @Denotes.decimal ['+'] "02147483647".toList false .plus (by decide)
      (List.all_eq_true.mp (by decide))
  refine ⟨rfl, (text _ _).mpr ⟨_, 2147483647, ?_, greatest, .integer 2147483647⟩,
    (number _ _).mpr (.integer (-2147483648)), refused _ ?_⟩
  · exact ⟨['\u00a0'], ['\n'], by decide, List.all_eq_true.mp (by decide),
      List.all_eq_true.mp (by decide)⟩
  · exact fun value => absurd ((range _).mp value) (by decide)

end ServiceClient.Wire.Scalar
