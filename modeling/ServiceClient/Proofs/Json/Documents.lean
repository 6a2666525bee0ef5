import ServiceClient.Proofs.Json.Values

/-! What a text of the grammar writes is read: behind every part of it stands what ends that part,
and the steps that the reader takes suffice for its length. So reading succeeds with a value exactly
if the text writes that value. -/

namespace ServiceClient.Json
open ServiceClient.Sequence Value

/-- A text at whose head there is neither space nor the end of a list. -/
def Begins (s : List UInt8) : Prop :=
  ∃ b t, s = b :: t ∧ isSpace b = false ∧ b ≠ 0x5D ∧ b ≠ 0x7D

theorem isSpace_of_isDigit {b : UInt8} (digit : isDigit b) : isSpace b = false := by
  simp only [isSpace, Bool.or_eq_false_iff, beq_eq_false_iff_ne]
  refine ⟨⟨⟨?_, ?_⟩, ?_⟩, ?_⟩ <;> rintro rfl <;> cases digit

theorem LeafText.begins {s rest : List UInt8} {v : Value} (text : LeafText s v rest) :
    Begins s ∧ s.head? ≠ some 0x5B ∧ s.head? ≠ some 0x7B := by
  cases text with
  | null => exact ⟨⟨_, _, rfl, rfl, by decide, by decide⟩, nofun, nofun⟩
  | bool b => cases b <;> exact ⟨⟨_, _, rfl, rfl, by decide, by decide⟩, nofun, nofun⟩
  | number text =>
    obtain ⟨b, t, rfl, rfl | digit⟩ := text.exists_head
    · exact ⟨⟨_, _, rfl, rfl, by decide, by decide⟩, nofun, nofun⟩
    · refine ⟨⟨b, t, rfl, isSpace_of_isDigit digit, ?_, ?_⟩, ?_, ?_⟩ <;> rintro ⟨⟩ <;> cases digit
  | string quoted =>
    obtain ⟨spelt⟩ := quoted
    exact ⟨⟨_, _, rfl, rfl, by decide, by decide⟩, nofun, nofun⟩

theorem ValueText.begins {depth : Nat} {s rest : List UInt8} {v : Value}
    (text : ValueText depth s v rest) : Begins s := by
  cases depth with
  | zero => exact (LeafText.begins text).1
  | succ depth =>
    cases text with
    | leaf text => exact text.begins.1
    | array | object => exact ⟨_, _, rfl, rfl, by decide, by decide⟩

theorem Begins.skipSpace_eq {s t : List UInt8} (begins : Begins t) (spaces : Spaces s t) :
    skipSpace s = t := by
  obtain ⟨b, t, rfl, plain, -⟩ := begins
  rw [spaces.skipSpace_eq, skipSpace_cons plain]

theorem QuotedText.begins {s rest : List UInt8} {text : String} (quoted : QuotedText s text rest) :
    Begins s := by
  obtain ⟨spelt⟩ := quoted
  exact ⟨_, _, rfl, rfl, by decide, by decide⟩

theorem Separated.begins {α : Type} {element : List UInt8 → α → List UInt8 → Prop} {close : UInt8}
    (first : ∀ {s x rest}, element s x rest → Begins s) {s rest : List UInt8} {xs : List α}
    (text : Separated element close s xs rest) : Begins s := by
  cases text with
  | last head | more head => exact first head

theorem MemberText.begins {inner : List UInt8 → Value → List UInt8 → Prop} {s rest : List UInt8}
    {e : String × Value} (text : MemberText inner s e rest) : Begins s := by
  obtain ⟨key, -⟩ := text
  exact key.begins

theorem Spaces.ends {s rest : List UInt8} {b : UInt8} (spaces : Spaces s (b :: rest))
    (stop : b = 0x2C ∨ b = 0x5D ∨ b = 0x7D) : Ends s := by
  cases spaces with
  | none =>
    rintro c ⟨⟩
    exact .inr stop
  | more space =>
    rintro c ⟨⟩
    exact .inl space

section Length
variable {α : Type} {element : List UInt8 → α → List UInt8 → Prop} {close : UInt8}

theorem Separated.length_lt (shorter : ∀ {s x rest}, element s x rest → rest.length < s.length)
    {s rest : List UInt8} {xs : List α} (text : Separated element close s xs rest) :
    rest.length < s.length := by
  induction text with
  | last head ends =>
    have taken := shorter head
    have left := ends.length_le
    rw [List.length_cons] at left
    omega
  | more head comma spaces _ ih =>
    have taken := shorter head
    have left := comma.length_le
    have behind := spaces.length_le
    rw [List.length_cons] at left
    omega

theorem Bracketed.length_lt (shorter : ∀ {s x rest}, element s x rest → rest.length < s.length)
    {s rest : List UInt8} {xs : List α} (text : Bracketed element close s xs rest) :
    rest.length < s.length := by
  cases text with
  | empty ends => exact ends.length_le
  | filled spaces elements =>
    exact Nat.lt_of_lt_of_le (elements.length_lt shorter) spaces.length_le

theorem MemberText.length_lt {inner : List UInt8 → Value → List UInt8 → Prop}
    (shorter : ∀ {s v rest}, inner s v rest → rest.length < s.length)
    {s rest : List UInt8} {e : String × Value} (text : MemberText inner s e rest) :
    rest.length < s.length := by
  obtain ⟨key, colon, spaces, held⟩ := text
  have taken := key.length_lt
  have left := colon.length_le
  have behind := spaces.length_le
  have value := shorter held
  rw [List.length_cons] at left
  omega

theorem LeafText.length_lt {s rest : List UInt8} {v : Value} (text : LeafText s v rest) :
    rest.length < s.length := by
  cases text with
  | null =>
    rw [List.length_append]
    exact Nat.lt_add_of_pos_left (by decide)
  | bool b =>
    rw [List.length_append]
    cases b <;> exact Nat.lt_add_of_pos_left (by decide)
  | number text => exact text.length_lt
  | string quoted => exact quoted.length_lt

theorem ValueText.length_lt {depth : Nat} {s rest : List UInt8} {v : Value}
    (text : ValueText depth s v rest) : rest.length < s.length := by
  induction depth generalizing s v rest with
  | zero => exact LeafText.length_lt text
  | succ depth ih =>
    cases text with
    | leaf text => exact text.length_lt
    | array text => exact Nat.lt_succ_of_lt (text.length_lt ih)
    | object text => exact Nat.lt_succ_of_lt (text.length_lt (MemberText.length_lt ih))

end Length

/-- The reader reads what stands at the head of a text as that value, with as many steps as the
text may need. -/
def ReadAs (depth : Nat) (s : List UInt8) (v : Value) (rest : List UInt8) : Prop :=
  ∀ steps, 2 * s.length ≤ steps →
    ∃ t, treeAt (steps + 1) s = (t, rest) ∧ written depth t = .ok v

theorem LeafText.readAs {depth : Nat} {s rest : List UInt8} {v : Value} (text : LeafText s v rest)
    (ends : Ends rest) : ReadAs depth s v rest := by
  intro steps _
  obtain ⟨-, array, object⟩ := text.begins
  obtain ⟨t, found, read⟩ := text.exists_leaf ends
  refine ⟨t, ?_, read⟩
  rw [treeAt.eq_def]
  dsimp only
  split
  · cases ‹_ = 0›
  · cases array rfl
  · cases object rfl
  · exact found

section Lists
variable {depth : Nat}
  (inner : ∀ {s v rest}, ValueText depth s v rest → Ends rest → ReadAs depth s v rest)
include inner

theorem Separated.exists_items {s rest : List UInt8} {values : List Value}
    (text : Separated (ValueText depth) 0x5D s values rest) :
    ∀ steps, 2 * s.length + 1 ≤ steps → ∃ items, elementsAt (steps + 1) s = (items, none, rest) ∧
      writtenItems depth items = .ok values := by
  induction text with
  | @last s t rest x head ends =>
    intro steps enough
    obtain ⟨steps, rfl⟩ : ∃ n, steps = n + 1 := ⟨steps - 1, by omega⟩
    obtain ⟨item, found, read⟩ := inner head (ends.ends (by decide)) steps (by omega)
    refine ⟨[item], ?_, writtenItems_cons.mpr ⟨x, [], read, rfl, rfl⟩⟩
    rw [elementsAt, found]
    dsimp only
    rw [(next_eq_closed rfl).mpr ends]
  | @more s t u v rest x xs head comma spaces others ih =>
    intro steps enough
    obtain ⟨steps, rfl⟩ : ∃ n, steps = n + 1 := ⟨steps - 1, by omega⟩
    obtain ⟨item, found, read⟩ := inner head (comma.ends (by decide)) steps (by omega)
    have taken := ValueText.length_lt head
    have left := comma.length_le
    have behind := spaces.length_le
    rw [List.length_cons] at left
    obtain ⟨items, later, more⟩ := ih steps (by omega)
    refine ⟨item :: items, ?_, writtenItems_cons.mpr ⟨x, xs, read, more, rfl⟩⟩
    have next : skipSpace u = v := (others.begins ValueText.begins).skipSpace_eq spaces
    rw [elementsAt, found]
    dsimp only
    rw [(next_eq_ok (by decide)).mpr ⟨u, comma, rfl⟩, next]
    dsimp only
    rw [later]

theorem Separated.exists_entries {s rest : List UInt8} {values : List (String × Value)}
    (text : Separated (MemberText (ValueText depth)) 0x7D s values rest) :
    ∀ steps, 2 * s.length + 1 ≤ steps →
      ∃ entries, membersAt (steps + 1) s = (entries, none, rest) ∧
        writtenEntries depth entries = .ok values := by
  induction text with
  | last head ends =>
    intro steps enough
    obtain ⟨steps, rfl⟩ : ∃ n, steps = n + 1 := ⟨steps - 1, by omega⟩
    obtain ⟨key, colon, spaces, held⟩ := head
    have name := key.length_lt
    have left := colon.length_le
    have behind := spaces.length_le
    rw [List.length_cons] at left
    obtain ⟨t, found, read⟩ := inner held (ends.ends (by decide)) steps (by omega)
    refine ⟨[(.ok _, t)], ?_, writtenEntries_cons.mpr ⟨_, _, [], rfl, read, rfl, rfl⟩⟩
    have value := (ValueText.begins held).skipSpace_eq spaces
    rw [membersAt, key_eq_ok.mpr ⟨_, _, key, colon, rfl⟩, value]
    dsimp only
    rw [found]
    dsimp only
    rw [(next_eq_closed rfl).mpr ends]
  | more head comma spaces others ih =>
    intro steps enough
    obtain ⟨steps, rfl⟩ : ∃ n, steps = n + 1 := ⟨steps - 1, by omega⟩
    have taken := head.length_lt ValueText.length_lt
    have further := comma.length_le
    have onward := spaces.length_le
    obtain ⟨key, colon, space, held⟩ := head
    have name := key.length_lt
    have left := colon.length_le
    have behind := space.length_le
    rw [List.length_cons] at left further
    obtain ⟨t, found, read⟩ := inner held (comma.ends (by decide)) steps (by omega)
    obtain ⟨entries, later, more⟩ := ih steps (by omega)
    refine ⟨(.ok _, t) :: entries, ?_,
      writtenEntries_cons.mpr ⟨_, _, _, rfl, read, more, rfl⟩⟩
    have value := (ValueText.begins held).skipSpace_eq space
    have next := (others.begins MemberText.begins).skipSpace_eq spaces
    rw [membersAt, key_eq_ok.mpr ⟨_, _, key, colon, rfl⟩, value]
    dsimp only
    rw [found]
    dsimp only
    rw [(next_eq_ok (by decide)).mpr ⟨_, comma, rfl⟩, next]
    dsimp only
    rw [later]

theorem readAs_array {s rest : List UInt8} {items : List Value}
    (text : Bracketed (ValueText depth) 0x5D s items rest) :
    ReadAs (depth + 1) (0x5B :: s) (.array items) rest := by
  intro steps enough
  rw [List.length_cons] at enough
  cases text with
  | empty ends =>
    refine ⟨.array [] none, ?_, written_array.mpr ⟨depth, [], rfl, rfl, rfl, rfl⟩⟩
    rw [treeAt, ends.skipSpace_eq, skipSpace_cons rfl]
    rfl
  | @filled _ t _ spaces elements =>
    obtain ⟨steps, rfl⟩ : ∃ n, steps = n + 1 := ⟨steps - 1, by omega⟩
    have left := spaces.length_le
    obtain ⟨trees, found, read⟩ := elements.exists_items inner steps (by omega)
    refine ⟨.array trees none, ?_, written_array.mpr ⟨depth, items, rfl, read, rfl, rfl⟩⟩
    have begins := elements.begins ValueText.begins
    rw [treeAt, begins.skipSpace_eq spaces]
    obtain ⟨b, t, rfl, -, open', -⟩ := begins
    split
    · cases ‹_ = []›
    · cases ‹_ = _ :: _›
      cases open' rfl
    · rw [found]

theorem readAs_object {s rest : List UInt8} {entries : List (String × Value)}
    (text : Bracketed (MemberText (ValueText depth)) 0x7D s entries rest) :
    ReadAs (depth + 1) (0x7B :: s) (.object entries) rest := by
  intro steps enough
  rw [List.length_cons] at enough
  cases text with
  | empty ends =>
    refine ⟨.object [] none, ?_, written_object.mpr ⟨depth, [], rfl, rfl, rfl, rfl⟩⟩
    rw [treeAt, ends.skipSpace_eq, skipSpace_cons rfl]
    rfl
  | @filled _ t _ spaces members =>
    obtain ⟨steps, rfl⟩ : ∃ n, steps = n + 1 := ⟨steps - 1, by omega⟩
    have left := spaces.length_le
    obtain ⟨trees, found, read⟩ := members.exists_entries inner steps (by omega)
    refine ⟨.object trees none, ?_, written_object.mpr ⟨depth, entries, rfl, read, rfl, rfl⟩⟩
    have begins := members.begins MemberText.begins
    rw [treeAt, begins.skipSpace_eq spaces]
    obtain ⟨b, t, rfl, -, -, open'⟩ := begins
    split
    · cases ‹_ = []›
    · cases ‹_ = _ :: _›
      cases open' rfl
    · rw [found]

end Lists

/-- What the grammar has at the head of a text is read. -/
theorem ValueText.readAs {depth : Nat} {s rest : List UInt8} {v : Value}
    (text : ValueText depth s v rest) (ends : Ends rest) : ReadAs depth s v rest := by
  induction depth generalizing s v rest with
  | zero => exact LeafText.readAs text ends
  | succ depth ih =>
    cases text with
    | leaf text => exact text.readAs ends
    | array text => exact readAs_array ih text
    | object text => exact readAs_object ih text

theorem Spaces.ends_nil {s : List UInt8} (spaces : Spaces s []) : Ends s := by
  cases spaces with
  | none => exact nofun
  | more space =>
    rintro c ⟨⟩
    exact .inl space

/-- A text is read exactly if the grammar has it, and to the value that it writes. -/
theorem readBytes_written_eq_ok {bytes : List UInt8} {v : Value} :
    readBytes (written maxDepth) bytes = .ok v ↔ Writes bytes v := by
  constructor
  · intro read
    cases found : treeAt (2 * bytes.length + 2) (skipSpace bytes) with
    | mk t rest =>
      simp only [readBytes, Source.ofBytes, Source.read, found] at read
      obtain ⟨w, read, behind⟩ := bind_eq_ok.mp read
      split at behind
      · cases behind
      · rename_i trailing
        cases behind
        have trail := spaces_skipSpace rest
        have none : skipSpace rest = [] := by simpa using trailing
        exact .text (spaces_skipSpace bytes) (valueText_of_treeAt _ found read) (none ▸ trail)
  · rintro ⟨lead, value, trail⟩
    have shorter := lead.length_le
    obtain ⟨t, found, read⟩ :=
      value.readAs trail.ends_nil (2 * bytes.length + 1) (by omega)
    simp only [readBytes, Source.ofBytes, Source.read, value.begins.skipSpace_eq lead, found]
    rw [read, trail.skipSpace_eq]
    rfl

end ServiceClient.Json
