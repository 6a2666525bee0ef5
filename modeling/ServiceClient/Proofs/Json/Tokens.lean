import Mathlib.Data.List.TakeWhile
import ServiceClient.Proofs.Data.Sequence
import ServiceClient.Proofs.Json.Grammar
import ServiceClient.Proofs.Text.Utf8

/-! Numbers, strings and words are read as the grammar has them: what is read is written there, and
what is written there is read, where the text behind it does not go on with it. -/

namespace ServiceClient.Json
open ServiceClient.Sequence

/-! White space -/

theorem spaces_skipSpace (s : List UInt8) : Spaces s (skipSpace s) := by
  induction s with
  | nil => exact .none []
  | cons b s ih =>
    by_cases space : isSpace b
    · rw [skipSpace, List.dropWhile_cons_of_pos space]
      exact .more space ih
    · rw [skipSpace, List.dropWhile_cons_of_neg space]
      exact .none _

theorem Spaces.skipSpace_eq {s rest : List UInt8} (spaces : Spaces s rest) :
    skipSpace s = skipSpace rest := by
  induction spaces with
  | none => rfl
  | more space _ ih => rwa [skipSpace, List.dropWhile_cons_of_pos space]

theorem skipSpace_cons {b : UInt8} (other : isSpace b = false) (s : List UInt8) :
    skipSpace (b :: s) = b :: s :=
  List.dropWhile_cons_of_neg (by simp [other])

theorem Spaces.length_le {s rest : List UInt8} (spaces : Spaces s rest) :
    rest.length ≤ s.length := by
  induction spaces with
  | none => exact Nat.le_refl _
  | more _ _ ih => exact Nat.le_succ_of_le ih

/-! Numbers -/

/-- A text that does not begin with a byte of a kind. -/
def Stops (kind : UInt8 → Bool) (rest : List UInt8) : Prop :=
  ∀ b ∈ rest.head?, kind b = false

theorem digits_of_run {s : List UInt8} (some : s.takeWhile isDigit ≠ []) :
    Digits s (charsOf (s.takeWhile isDigit)) (s.dropWhile isDigit) := by
  have text := Digits.run some (fun _ mem => List.mem_takeWhile_imp mem) (s.dropWhile isDigit)
  rwa [List.takeWhile_append_dropWhile] at text

theorem digits_of_digits {s rest : List UInt8} {ds : List Char}
    (read : digits s = .ok (ds, rest)) : Digits s ds rest := by
  unfold digits at read
  split at read
  · cases read
  · rename_i found
    cases read
    exact digits_of_run found

theorem takeWhile_run {bytes rest : List UInt8} (all : ∀ b ∈ bytes, isDigit b)
    (stops : Stops isDigit rest) :
    (bytes ++ rest).takeWhile isDigit = bytes ∧ (bytes ++ rest).dropWhile isDigit = rest := by
  have ended : rest.takeWhile isDigit = [] ∧ rest.dropWhile isDigit = rest := by
    cases rest with
    | nil => exact ⟨rfl, rfl⟩
    | cons b rest =>
      have other : ¬isDigit b = true := by simp [stops b rfl]
      exact ⟨List.takeWhile_cons_of_neg other, List.dropWhile_cons_of_neg other⟩
  rw [List.takeWhile_append_of_pos all, List.dropWhile_append_of_pos all, ended.1, ended.2,
    List.append_nil]
  exact ⟨rfl, rfl⟩

/-- A run of digits that the text behind it does not go on with is all the digits in front. -/
theorem Digits.run_eq {s rest : List UInt8} {ds : List Char} (text : Digits s ds rest)
    (stops : Stops isDigit rest) :
    s.takeWhile isDigit ≠ [] ∧ ds = charsOf (s.takeWhile isDigit) ∧ s.dropWhile isDigit = rest := by
  cases text with
  | run some all =>
    obtain ⟨taken, left⟩ := takeWhile_run all stops
    exact ⟨taken.symm ▸ some, by rw [taken], left⟩

theorem Digits.digits_eq {s rest : List UInt8} {ds : List Char} (text : Digits s ds rest)
    (stops : Stops isDigit rest) : Json.digits s = .ok (ds, rest) := by
  obtain ⟨some, rfl, left⟩ := text.run_eq stops
  unfold Json.digits
  split
  · exact absurd ‹_› some
  · rw [left]

theorem wholePart_of_whole {s rest : List UInt8} {ds : List Char}
    (read : whole s = .ok (ds, rest)) : WholePart s ds rest := by
  cases s with
  | nil => cases read
  | cons b s =>
    rw [whole] at read
    split at read
    · cases read
    · rename_i digit
      split at read
      · rename_i zero
        rw [beq_iff_eq] at zero
        split at read
        · cases read
        · cases read
          exact zero ▸ .zero rest
      · rename_i leading
        cases read
        have first : isDigit b := by simpa using digit
        have some : (b :: s).takeWhile isDigit ≠ [] := by
          rw [List.takeWhile_cons_of_pos first]
          exact List.cons_ne_nil _ _
        exact .digits (by simpa using leading) (digits_of_run some)

theorem WholePart.whole_eq {s rest : List UInt8} {ds : List Char} (text : WholePart s ds rest)
    (stops : Stops isDigit rest) : whole s = .ok (ds, rest) := by
  cases text with
  | zero =>
    have ended : rest.head?.any isDigit = false := by
      cases head : rest.head? with
      | none => rfl
      | some b => exact stops b head
    rw [whole, ended]
    rfl
  | @digits b s _ _ leading text =>
    obtain ⟨some, rfl, left⟩ := text.run_eq stops
    have first : isDigit b := by
      by_contra other
      exact some (List.takeWhile_cons_of_neg other)
    rw [whole, if_neg (by simp [first]), if_neg (by simpa using leading), left]

theorem fractionPart_of_fraction {s rest : List UInt8} {ds : Option (List Char)}
    (read : fraction s = .ok (ds, rest)) : FractionPart s ds rest := by
  unfold fraction at read
  split at read
  · obtain ⟨_, taken, made⟩ := map_eq_ok.mp read
    cases made
    exact .digits (digits_of_digits taken)
  · cases read
    exact .none _

theorem FractionPart.fraction_eq {s rest : List UInt8} {ds : Option (List Char)}
    (text : FractionPart s ds rest) (digits : Stops isDigit rest) (point : Stops (· == 0x2E) rest) :
    fraction s = .ok (ds, rest) := by
  cases text with
  | none =>
    unfold fraction
    split
    · cases point 0x2E rfl
    · rfl
  | digits text =>
    rw [fraction, text.digits_eq digits]
    rfl

/-- The sign of an exponent, and what it stands before. -/
def exponentSign : List UInt8 → Bool × List UInt8
  | 0x2B :: t => (false, t)
  | 0x2D :: t => (true, t)
  | t => (false, t)

theorem exponent_cons (b : UInt8) (s : List UInt8) :
    exponent (b :: s) =
      if b == 0x65 || b == 0x45 then
        (digits (exponentSign s).2).map fun taken =>
          (some ((exponentSign s).1, taken.1), taken.2)
      else .ok (none, b :: s) := by
  rw [exponent.eq_def]
  rfl

theorem exponentSign_spec (s : List UInt8) :
    ExponentSign s (exponentSign s).1 (exponentSign s).2 := by
  unfold exponentSign
  split
  · exact .plus _
  · exact .minus _
  · exact .none _

/-- The byte in front of a run of digits is one of them. -/
theorem Digits.exists_head {s rest : List UInt8} {ds : List Char} (text : Digits s ds rest) :
    ∃ b t, s = b :: t ∧ isDigit b := by
  cases text with
  | @run bytes some all =>
    obtain ⟨b, bytes, rfl⟩ := List.exists_cons_of_ne_nil some
    exact ⟨b, bytes ++ rest, rfl, all b List.mem_cons_self⟩

theorem ExponentSign.exponentSign_eq {s t rest : List UInt8} {negative : Bool} {ds : List Char}
    (sign : ExponentSign s negative t) (text : Digits t ds rest) :
    exponentSign s = (negative, t) := by
  cases sign with
  | plus | minus => rfl
  | none =>
    obtain ⟨b, t, rfl, digit⟩ := text.exists_head
    unfold exponentSign
    split
    · rename_i same
      cases same
      cases digit
    · rename_i same
      cases same
      cases digit
    · rfl

theorem exponentPart_of_exponent {s rest : List UInt8} {e : Option (Bool × List Char)}
    (read : exponent s = .ok (e, rest)) : ExponentPart s e rest := by
  cases s with
  | nil =>
    cases read
    exact .none []
  | cons b s =>
    rw [exponent_cons] at read
    split at read
    · rename_i mark
      rw [Bool.or_eq_true, beq_iff_eq, beq_iff_eq] at mark
      obtain ⟨_, taken, made⟩ := map_eq_ok.mp read
      cases made
      exact .digits mark (exponentSign_spec s) (digits_of_digits taken)
    · cases read
      exact .none _

theorem ExponentPart.exponent_eq {s rest : List UInt8} {e : Option (Bool × List Char)}
    (text : ExponentPart s e rest) (digits : Stops isDigit rest)
    (mark : Stops (fun b => b == 0x65 || b == 0x45) rest) : exponent s = .ok (e, rest) := by
  cases text with
  | none =>
    cases s with
    | nil => rfl
    | cons b s =>
      have other : (b == 0x65 || b == 0x45) = false := mark b rfl
      rw [exponent_cons, other]
      rfl
  | digits mark sign text =>
    rw [exponent_cons, if_pos (by simpa using mark), sign.exponentSign_eq text,
      text.digits_eq digits]
    rfl

/-- The sign of a number, and what it stands before. -/
def numberSign : List UInt8 → Bool × List UInt8
  | 0x2D :: t => (true, t)
  | t => (false, t)

theorem numberSign_spec (s : List UInt8) : Sign s (numberSign s).1 (numberSign s).2 := by
  unfold numberSign
  split
  · exact .minus _
  · exact .none _

theorem literal_eq (s : List UInt8) :
    literal s = (whole (numberSign s).2 >>= fun w => fraction w.2 >>= fun f => exponent f.2 >>=
      fun e => .ok (⟨(numberSign s).1, w.1, f.1, e.1⟩, e.2)) :=
  rfl

theorem numberText_of_literal {s rest : List UInt8} {l : Literal}
    (read : literal s = .ok (l, rest)) : NumberText s l rest := by
  rw [literal_eq] at read
  obtain ⟨w, first, read⟩ := bind_eq_ok.mp read
  obtain ⟨f, second, read⟩ := bind_eq_ok.mp read
  obtain ⟨e, third, made⟩ := bind_eq_ok.mp read
  cases made
  exact .parts (numberSign_spec s) (wholePart_of_whole first) (fractionPart_of_fraction second)
    (exponentPart_of_exponent third)

theorem WholePart.exists_head {s rest : List UInt8} {ds : List Char} (text : WholePart s ds rest) :
    ∃ b t, s = b :: t ∧ isDigit b := by
  cases text with
  | zero => exact ⟨_, _, rfl, rfl⟩
  | digits _ text => exact text.exists_head

theorem Sign.numberSign_eq {s t rest : List UInt8} {negative : Bool} {ds : List Char}
    (sign : Sign s negative t) (text : WholePart t ds rest) : numberSign s = (negative, t) := by
  cases sign with
  | minus => rfl
  | none =>
    obtain ⟨b, t, rfl, digit⟩ := text.exists_head
    unfold numberSign
    split
    · rename_i same
      cases same
      cases digit
    · rfl

/-- The bytes that a number may go on with. -/
def goesOn (b : UInt8) : Bool :=
  isDigit b || b == 0x2E || b == 0x65 || b == 0x45

theorem goesOn_of_ends {rest : List UInt8} (ends : Ends rest) : Stops goesOn rest := by
  intro b mem
  rcases ends b mem with space | rfl | rfl | rfl
  · simp only [isSpace, Bool.or_eq_true, beq_iff_eq] at space
    rcases space with ((rfl | rfl) | rfl) | rfl <;> rfl
  all_goals rfl

theorem Stops.mono {kind other : UInt8 → Bool} {rest : List UInt8} (stops : Stops kind rest)
    (less : ∀ b, other b → kind b) : Stops other rest := fun b mem =>
  Bool.eq_false_iff.mpr fun is => Bool.eq_false_iff.mp (stops b mem) (less b is)

theorem ExponentPart.stops {s rest : List UInt8} {e : Option (Bool × List Char)}
    (text : ExponentPart s e rest) (behind : Stops goesOn rest) :
    Stops (fun b => isDigit b || b == 0x2E) s := by
  cases text with
  | none => exact behind.mono fun b is => by simp_all [goesOn]
  | digits mark =>
    rintro b ⟨⟩
    rcases mark with rfl | rfl <;> rfl

theorem FractionPart.stops {s rest : List UInt8} {ds : Option (List Char)}
    (text : FractionPart s ds rest) (behind : Stops (fun b => isDigit b || b == 0x2E) rest) :
    Stops isDigit s := by
  cases text with
  | none => exact behind.mono fun b is => by simp [is]
  | digits =>
    rintro b ⟨⟩
    rfl

theorem NumberText.literal_eq {s rest : List UInt8} {l : Literal} (text : NumberText s l rest)
    (ends : Ends rest) : literal s = .ok (l, rest) := by
  have behind := goesOn_of_ends ends
  obtain ⟨sign, whole, fraction, exponent⟩ := text
  have afterFraction := exponent.stops behind
  have exponentRead := exponent.exponent_eq (behind.mono fun b is => by simp [goesOn, is])
    (behind.mono fun b is => by simp_all [goesOn, or_assoc])
  have fractionRead := fraction.fraction_eq (afterFraction.mono fun b is => by simp [is])
    (afterFraction.mono fun b is => by simp_all)
  have wholeRead := whole.whole_eq (fraction.stops afterFraction)
  rw [Json.literal_eq, sign.numberSign_eq whole, wholeRead]
  simp only [bind, Except.bind, fractionRead, exponentRead]

theorem Sign.exists_head {s t rest : List UInt8} {negative : Bool} {ds : List Char}
    (sign : Sign s negative t) (whole : WholePart t ds rest) :
    ∃ b u, s = b :: u ∧ (b = 0x2D ∨ isDigit b) := by
  cases sign with
  | minus => exact ⟨_, _, rfl, .inl rfl⟩
  | none =>
    obtain ⟨b, t, rfl, digit⟩ := whole.exists_head
    exact ⟨b, t, rfl, .inr digit⟩

/-- A number begins with its sign or a digit. -/
theorem NumberText.exists_head {s rest : List UInt8} {l : Literal} (text : NumberText s l rest) :
    ∃ b t, s = b :: t ∧ (b = 0x2D ∨ isDigit b) := by
  obtain ⟨sign, whole, -, -⟩ := text
  exact sign.exists_head whole

/-! Strings -/

theorem isTrailing_of_isLeading {n : Nat} (leading : isLeading n) : isTrailing n = false := by
  simp only [isLeading, isTrailing, Bool.and_eq_true, decide_eq_true_eq, Bool.and_eq_false_iff,
    decide_eq_false_iff_not] at leading ⊢
  omega

theorem ne_of_shortEscape? {b e : UInt8} (stands : shortEscape? b = some e) : b ≠ 0x75 := by
  rintro rfl
  cases stands

section Strings
variable {a b c d e : UInt8} {n m : Nat} {s : List UInt8}

attribute [local simp] afterString stringBytes

theorem afterString_plain (visible : 0x20 ≤ b) (quote : b ≠ 0x22) (escape : b ≠ 0x5C) :
    afterString (b :: s) = afterString s := by
  have control : ¬b < 0x20 := UInt8.not_lt.mpr visible
  simp [escape, control]

theorem afterString_short (stands : shortEscape? b = some e) :
    afterString (0x5C :: b :: s) = afterString s := by
  simp [ne_of_shortEscape? stands, stands]

theorem afterString_unit (number : hex4? a b c d = some n) :
    afterString (0x5C :: 0x75 :: a :: b :: c :: d :: s) = afterString s := by
  rw [afterString, number]
  rfl

theorem stringBytes_plain (visible : 0x20 ≤ b) (quote : b ≠ 0x22) (escape : b ≠ 0x5C) :
    stringBytes (b :: s) = (stringBytes s).map (b :: ·) := by
  have control : ¬b < 0x20 := UInt8.not_lt.mpr visible
  simp [escape, control]

theorem stringBytes_short (stands : shortEscape? b = some e) :
    stringBytes (0x5C :: b :: s) = (stringBytes s).map (e :: ·) := by
  simp [ne_of_shortEscape? stands, stands]

theorem stringBytes_unit (number : hex4? a b c d = some n) (leading : isLeading n = false)
    (trailing : isTrailing n = false) :
    stringBytes (0x5C :: 0x75 :: a :: b :: c :: d :: s) =
      (stringBytes s).map (String.utf8EncodeChar (Char.ofNat n) ++ ·) := by
  rw [stringBytes.eq_def]
  simp [number, leading, trailing]

theorem stringBytes_pair {a' b' c' d' : UInt8} (first : hex4? a b c d = some n)
    (leading : isLeading n) (second : hex4? a' b' c' d' = some m) (trailing : isTrailing m) :
    stringBytes (0x5C :: 0x75 :: a :: b :: c :: d :: 0x5C :: 0x75 :: a' :: b' :: c' :: d' :: s) =
      (stringBytes s).map
        (String.utf8EncodeChar
          (Char.ofNat (0x10000 + (n - 0xD800) * 0x400 + (m - 0xDC00))) ++ ·) := by
  rw [stringBytes.eq_def]
  simp [first, isTrailing_of_isLeading leading, leading, second, trailing]

end Strings

theorem StringText.afterString_eq {s bytes rest : List UInt8} (text : StringText s bytes rest) :
    afterString s = .ok rest := by
  induction text with
  | close => rw [afterString]
  | plain visible quote escape _ ih => rwa [afterString_plain visible quote escape]
  | short stands _ ih => rwa [afterString_short stands]
  | unit number _ _ _ ih => rwa [afterString_unit number]
  | pair first _ second _ _ ih => rwa [afterString_unit first, afterString_unit second]

theorem StringText.stringBytes_eq {s bytes rest : List UInt8} (text : StringText s bytes rest) :
    stringBytes s = .ok bytes := by
  induction text with
  | close => rw [stringBytes]
  | plain visible quote escape _ ih =>
    rw [stringBytes_plain visible quote escape, ih]
    rfl
  | short stands _ ih =>
    rw [stringBytes_short stands, ih]
    rfl
  | unit number leading trailing _ ih =>
    rw [stringBytes_unit number leading trailing, ih]
    rfl
  | pair first leading second trailing _ ih =>
    rw [stringBytes_pair first leading second trailing, ih]
    rfl

theorem stringText_of_read {s bytes rest : List UInt8} (spelt : stringBytes s = .ok bytes)
    (ended : afterString s = .ok rest) : StringText s bytes rest := by
  -- Where the spelling is at fault, no bytes are read.
  fun_induction stringBytes s generalizing bytes rest
  all_goals try cases spelt
  case case2.refl =>
    rw [afterString] at ended
    cases ended
    exact .close _
  case case9 first _ leading _ _ _ _ _ _ second trailing _ ih =>
    obtain ⟨_, read, rfl⟩ := map_eq_ok.mp spelt
    rw [afterString_unit first, afterString_unit second] at ended
    exact .pair first leading second trailing (ih read ended)
  case case13 number trailing leading ih =>
    obtain ⟨_, read, rfl⟩ := map_eq_ok.mp spelt
    rw [afterString_unit number] at ended
    exact .unit number (by simpa using leading) (by simpa using trailing) (ih read ended)
  case case15 stands ih =>
    obtain ⟨_, read, rfl⟩ := map_eq_ok.mp spelt
    rw [afterString_short stands] at ended
    exact .short stands (ih read ended)
  case case18 b s quote only _ _ escape visible ih =>
    obtain ⟨_, read, rfl⟩ := map_eq_ok.mp spelt
    have plain : b ≠ 0x5C := by
      rintro rfl
      cases s with
      | nil => exact only rfl rfl
      | cons b s => exact escape b s rfl rfl
    rw [afterString_plain (UInt8.not_lt.mp visible) quote plain] at ended
    exact .plain (UInt8.not_lt.mp visible) quote plain (ih read ended)

/-- A string is read to a text exactly if it spells that text and ends. -/
theorem spelling_eq_ok {s rest : List UInt8} {text : String} :
    spelling s = .ok (.ok text, rest) ↔ StringText s (Text.utf8 text) rest := by
  constructor
  · intro read
    cases ended : afterString s with
    | error skipped =>
      simp only [spelling, ended] at read
      split at read <;> simp_all
    | ok rest' =>
      simp only [spelling, ended, Except.ok.injEq, Prod.mk.injEq] at read
      obtain ⟨made, rfl⟩ := read
      obtain ⟨bytes, spelt, made⟩ := bind_eq_ok.mp made
      split at made
      · rename_i decoded
        cases made
        rw [← Text.Utf8.decode?_eq_some_iff.mp decoded]
        exact stringText_of_read spelt ended
      · cases made
  · intro text
    simp [spelling, text.afterString_eq, text.stringBytes_eq, bind, Except.bind,
      Text.Utf8.decode?_utf8]

/-! Words -/

theorem afterWord_eq_ok {word s rest : List UInt8} :
    afterWord word s = .ok rest ↔ s = word ++ rest := by
  induction word generalizing s with
  | nil => simp [afterWord]
  | cons w word ih =>
    cases s with
    | nil => simp [afterWord]
    | cons b s =>
      rw [afterWord]
      by_cases same : w = b
      · simp [same, ih]
      · simp [same, Ne.symm same]

/-! What stands in a text takes some of it. -/

section Length
variable {s rest : List UInt8}

theorem Digits.length_lt {ds : List Char} (text : Digits s ds rest) : rest.length < s.length := by
  cases text with
  | run some =>
    rw [List.length_append]
    exact Nat.lt_add_of_pos_left (List.length_pos_of_ne_nil some)

theorem WholePart.length_lt {ds : List Char} (text : WholePart s ds rest) :
    rest.length < s.length := by
  cases text with
  | zero => exact Nat.lt_succ_self _
  | digits _ text => exact text.length_lt

theorem Sign.length_le {negative : Bool} (text : Sign s negative rest) :
    rest.length ≤ s.length := by
  cases text with
  | none => exact Nat.le_refl _
  | minus => exact Nat.le_succ _

theorem FractionPart.length_le {ds : Option (List Char)} (text : FractionPart s ds rest) :
    rest.length ≤ s.length := by
  cases text with
  | none => exact Nat.le_refl _
  | digits text => exact Nat.le_succ_of_le text.length_lt.le

theorem ExponentSign.length_le {negative : Bool} (text : ExponentSign s negative rest) :
    rest.length ≤ s.length := by
  cases text with
  | none => exact Nat.le_refl _
  | plus | minus => exact Nat.le_succ _

theorem ExponentPart.length_le {e : Option (Bool × List Char)} (text : ExponentPart s e rest) :
    rest.length ≤ s.length := by
  cases text with
  | none => exact Nat.le_refl _
  | digits _ sign text => exact Nat.le_succ_of_le (text.length_lt.le.trans sign.length_le)

theorem NumberText.length_lt {l : Literal} (text : NumberText s l rest) :
    rest.length < s.length := by
  obtain ⟨sign, whole, fraction, exponent⟩ := text
  calc
    rest.length ≤ _ := exponent.length_le
    _ ≤ _ := fraction.length_le
    _ < _ := whole.length_lt
    _ ≤ s.length := sign.length_le

theorem StringText.length_lt {bytes : List UInt8} (text : StringText s bytes rest) :
    rest.length < s.length := by
  induction text with
  | close => exact Nat.lt_succ_self _
  | plain _ _ _ _ ih | short _ _ ih | unit _ _ _ _ ih | pair _ _ _ _ _ ih =>
    simp only [List.length_cons]
    omega

theorem QuotedText.length_lt {text : String} (quoted : QuotedText s text rest) :
    rest.length < s.length := by
  obtain ⟨spelt⟩ := quoted
  exact Nat.lt_succ_of_lt spelt.length_lt

end Length

end ServiceClient.Json
