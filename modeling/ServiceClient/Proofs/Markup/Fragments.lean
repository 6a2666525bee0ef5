import ServiceClient.Proofs.Markup.Rendered
import ServiceClient.Proofs.Markup.Spelling

/-! What scanning the fragments of a text does. Their characters are added to the text so far,
whether this stands in the events already or in a piece that is not ended yet; what ends a fragment
is met at its end and no earlier. -/

namespace ServiceClient.Markup
open ServiceClient.Text

theorem ne_ascii_of_not_mem {s : String} {d : Char} (low : d.toNat < 0x80) (absent : d ∉ s.toList) :
    ∀ b ∈ utf8 s, b ≠ ascii d := by
  intro b mem
  obtain ⟨c, here, inside⟩ := List.mem_flatMap.mp mem
  exact Scan.ne_ascii_of_ne low (fun same => absent (same ▸ here)) b inside

namespace Refers
variable {name : String} {c : Char}

theorem character?_toNat (visible : c ≠ Char.ofNat 0) : character? c.toNat = some c := by
  have filled : c.toNat ≠ 0 := fun zero => visible (by rw [← zero, Char.ofNat_toNat])
  have valid : c.toNat.isValidChar := c.valid
  simp [character?, filled, valid]

theorem isDigit_of_natural? {digits : List Char} {n : Nat}
    (number : Number.natural? digits = some n) : ∀ d ∈ digits, d.isDigit := by
  rw [Number.natural?] at number
  split at number
  · rename_i all
    simp only [Bool.and_eq_true, List.all_eq_true] at all
    exact all.2
  · cases number

theorem hexDigit?_of_hexadecimal? {digits : List Char} {n : Nat}
    (number : Number.hexadecimal? digits = some n) : ∀ d ∈ digits, Number.hexDigit? d ≠ none := by
  rw [Number.hexadecimal?] at number
  split at number
  · cases number
  obtain ⟨values, read, -⟩ := Option.map_eq_some_iff.mp number
  clear * - read
  induction digits generalizing values with
  | nil => simp
  | cons d digits ih =>
    simp only [List.mapM_cons, Option.bind_eq_bind, Option.bind_eq_some_iff] at read
    obtain ⟨value, first, later, rest, -⟩ := read
    rw [List.forall_mem_cons]
    exact ⟨by simp [first], ih later rest⟩

theorem reference?_eq (h : Refers name c) : reference? name.toList = some c := by
  cases h with
  | amp | lt | gt | quot | apos => rfl
  | @decimal digits c number visible =>
    have digit := isDigit_of_natural? number
    have other : ∀ rest, digits ≠ 'x' :: rest := by
      rintro rest rfl
      exact absurd (digit 'x' List.mem_cons_self) (by decide)
    rw [String.toList_ofList, reference?.eq_2 _ (fun rest => other rest), number, Option.bind_some,
      character?_toNat visible]
  | hexadecimal number visible =>
    rw [String.toList_ofList, reference?, number, Option.bind_some, character?_toNat visible]

/-- No name of a reference holds a sign that would end it or begin another. -/
theorem not_mem (h : Refers name c) {d : Char} (sign : d = ';' ∨ d = '&' ∨ d = '<') :
    d ∉ name.toList := by
  have number : d.isDigit = false ∧ Number.hexDigit? d = none ∧ d ≠ '#' ∧ d ≠ 'x' := by
    rcases sign with rfl | rfl | rfl <;> decide
  obtain ⟨digit, hexDigit, mark, base⟩ := number
  cases h with
  | amp | lt | gt | quot | apos => rcases sign with rfl | rfl | rfl <;> decide
  | decimal value =>
    intro mem
    rw [String.toList_ofList, List.mem_cons] at mem
    rcases mem with same | mem
    · exact mark same
    · simp [isDigit_of_natural? value d mem] at digit
  | hexadecimal value =>
    intro mem
    rw [String.toList_ofList, List.mem_cons, List.mem_cons] at mem
    rcases mem with same | same | mem
    · exact mark same
    · exact base same
    · simpa [hexDigit] using hexDigit?_of_hexadecimal? value d mem

end Refers

namespace Scan
variable (opened : List (List UInt8)) (events : List Event)

theorem run_refers {name : String} {c : Char} (h : Refers name c) (rest : List UInt8) :
    Scan.run ⟨opened, events, .reference []⟩ (utf8 name ++ [ascii ';'] ++ rest) =
      Scan.run ⟨opened, addText (String.singleton c) events, .text []⟩ rest := by
  have kept : ∀ b ∈ utf8 name, ∀ met,
      Scan.step ⟨opened, events, .reference met⟩ b =
        some ⟨opened, events, .reference (b :: met)⟩ := by
    intro b mem met
    have close : b ≠ ascii ';' := ne_ascii_of_not_mem (by decide) (h.not_mem (by simp)) b mem
    have another : b ≠ ascii '&' := ne_ascii_of_not_mem (by decide) (h.not_mem (by simp)) b mem
    have tag : b ≠ ascii '<' := ne_ascii_of_not_mem (by decide) (h.not_mem (by simp)) b mem
    simp [step, close, another, tag, goto]
  rw [List.append_assoc, run_kept kept, List.append_nil, List.singleton_append, run_cons]
  simp [step, endReference, Utf8.decode?_utf8, h.reference?_eq]

/-- Bytes up to the first place where `stop` ends, where all are kept until there. -/
theorem run_until (place : List UInt8 → Place) {stop : List UInt8}
    (kept : ∀ b met, ¬stop.reverse <+: b :: met →
      Scan.step ⟨opened, events, place met⟩ b = some ⟨opened, events, place (b :: met)⟩)
    (met bytes : List UInt8) (within : ¬stop <:+: met.reverse ++ bytes) (rest : List UInt8) :
    Scan.run ⟨opened, events, place met⟩ (bytes ++ rest) =
      Scan.run ⟨opened, events, place (bytes.reverse ++ met)⟩ rest := by
  induction bytes generalizing met with
  | nil => rfl
  | cons b bytes ih =>
    have sofar : ¬stop.reverse <+: b :: met := by
      rintro ⟨before, split⟩
      have spelt : before.reverse ++ stop = met.reverse ++ [b] := by
        simpa using congrArg List.reverse split
      exact within ⟨before.reverse, bytes, by simp [spelt]⟩
    rw [List.cons_append, run_cons, kept b met sofar, Option.bind_some,
      ih (b :: met) (by simpa using within)]
    simp

theorem step_data (b : UInt8) (met : List UInt8)
    (sofar : ¬(asciiBytes "]]>").reverse <+: b :: met) :
    Scan.step ⟨opened, events, .data met⟩ b = some ⟨opened, events, .data (b :: met)⟩ := by
  simp only [step, goto]
  split
  · rename_i before
    have other : b ≠ ascii '>' := by
      rintro rfl
      exact sofar ⟨before, rfl⟩
    rw [if_neg other]
  · rfl

theorem run_data {s : String} (filled : s ≠ "") (within : ¬asciiBytes "]]>" <:+: utf8 s)
    (rest : List UInt8) :
    Scan.run ⟨opened, events, .markup⟩
        (asciiBytes "![CDATA[" ++ utf8 s ++ asciiBytes "]]>" ++ rest) =
      Scan.run ⟨opened, flush s.toList events, .text []⟩ rest := by
  have start : ∀ later, Scan.run ⟨opened, events, .markup⟩ (asciiBytes "![CDATA[" ++ later) =
      Scan.run ⟨opened, events, .data []⟩ later := fun _ => rfl
  have bracket : ∀ content, Scan.step ⟨opened, events, .data content⟩ (ascii ']') =
      some ⟨opened, events, .data (ascii ']' :: content)⟩ := by
    intro content
    simp only [step, goto]
    split <;> rfl
  have signs : asciiBytes "]]>" ++ rest = ascii ']' :: ascii ']' :: ascii '>' :: rest := rfl
  rw [List.append_assoc, List.append_assoc, start,
    run_until opened events .data (step_data opened events) [] (utf8 s) within, List.append_nil,
    signs, run_cons, bracket, Option.bind_some, run_cons, bracket, Option.bind_some, run_cons]
  simp [step, endData, Utf8.decode?_utf8, ascii, flush, filled]

/-- How many of the last two bytes are dashes. -/
def dashesAt : List UInt8 → Nat
  | 0x2D :: 0x2D :: _ => 2
  | 0x2D :: _ => 1
  | _ => 0

theorem dashesAt_dash (met : List UInt8) :
    dashesAt (ascii '-' :: met) = min 2 (dashesAt met + 1) := by
  rcases met with _ | ⟨b, _ | ⟨c, met⟩⟩
  · rfl
  · by_cases last : b = 0x2D <;> simp [dashesAt, ascii, last]
  · by_cases last : b = 0x2D <;> by_cases before : c = 0x2D <;> simp [dashesAt, ascii, last, before]

theorem dashesAt_of_ne {b : UInt8} (other : b ≠ ascii '-') (met : List UInt8) :
    dashesAt (b :: met) = 0 := by
  unfold dashesAt
  split <;> simp_all [ascii]

theorem exists_of_dashesAt {met : List UInt8} (two : dashesAt met = 2) :
    ∃ before, met = ascii '-' :: ascii '-' :: before := by
  unfold dashesAt at two
  split at two
  · exact ⟨_, rfl⟩
  · cases two
  · cases two

theorem step_comment (b : UInt8) (met : List UInt8)
    (sofar : ¬(asciiBytes "-->").reverse <+: b :: met) :
    Scan.step ⟨opened, events, .comment (dashesAt met)⟩ b =
      some ⟨opened, events, .comment (dashesAt (b :: met))⟩ := by
  by_cases dash : b = ascii '-'
  · rw [dash, dashesAt_dash]
    rfl
  · have goesOn : ¬(b = ascii '>' ∧ dashesAt met = 2) := by
      rintro ⟨rfl, two⟩
      obtain ⟨before, rfl⟩ := exists_of_dashesAt two
      exact sofar ⟨before, rfl⟩
    rw [dashesAt_of_ne dash]
    simp [step, goto, dash, goesOn]

theorem run_comment {body : List UInt8} (within : ¬asciiBytes "-->" <:+: body)
    (rest : List UInt8) :
    Scan.run ⟨opened, events, .markup⟩ (asciiBytes "!--" ++ body ++ asciiBytes "-->" ++ rest) =
      Scan.run ⟨opened, events, .text []⟩ rest := by
  have start : ∀ later, Scan.run ⟨opened, events, .markup⟩ (asciiBytes "!--" ++ later) =
      Scan.run ⟨opened, events, .comment (dashesAt [])⟩ later := fun _ => rfl
  have stop : ∀ dashes, Scan.run ⟨opened, events, .comment dashes⟩ (asciiBytes "-->" ++ rest) =
      Scan.run ⟨opened, events, .text []⟩ rest := by
    intro dashes
    have two : min 2 (min 2 (dashes + 1) + 1) = 2 := by omega
    have signs : asciiBytes "-->" ++ rest = ascii '-' :: ascii '-' :: ascii '>' :: rest := rfl
    have dash : ∀ n, Scan.step ⟨opened, events, .comment n⟩ (ascii '-') =
        some ⟨opened, events, .comment (min 2 (n + 1))⟩ := fun _ => rfl
    have close : Scan.step ⟨opened, events, .comment 2⟩ (ascii '>') =
        some ⟨opened, events, .text []⟩ := rfl
    rw [signs, run_cons, dash, Option.bind_some, run_cons, dash, Option.bind_some, two, run_cons,
      close, Option.bind_some]
  rw [List.append_assoc, List.append_assoc, start,
    run_until opened events (fun met => .comment (dashesAt met)) (step_comment opened events) []
      body within, stop]

theorem step_instruction (b : UInt8) (met : List UInt8)
    (sofar : ¬(asciiBytes "?>").reverse <+: b :: met) :
    Scan.step ⟨opened, events, .instruction (met.head? = some (ascii '?'))⟩ b =
      some ⟨opened, events, .instruction ((b :: met).head? = some (ascii '?'))⟩ := by
  have goesOn : ¬(b = ascii '>' ∧ met.head? = some (ascii '?')) := by
    rintro ⟨rfl, asked⟩
    obtain ⟨before, rfl⟩ := List.head?_eq_some_iff.mp asked
    exact sofar ⟨before, rfl⟩
  simp [step, goto, goesOn]

theorem run_instruction {body : List UInt8} (named : body.head? ≠ some (ascii '>'))
    (within : ¬asciiBytes "?>" <:+: body) (rest : List UInt8) :
    Scan.run ⟨opened, events, .markup⟩ (asciiBytes "?" ++ body ++ asciiBytes "?>" ++ rest) =
      Scan.run ⟨opened, events, .text []⟩ rest := by
  have start : ∀ later, Scan.run ⟨opened, events, .markup⟩ (asciiBytes "?" ++ later) =
      Scan.run ⟨opened, events, .instructionStart⟩ later := fun _ => rfl
  have stop : ∀ asked, Scan.run ⟨opened, events, .instruction asked⟩ (asciiBytes "?>" ++ rest) =
      Scan.run ⟨opened, events, .text []⟩ rest := fun _ => rfl
  rw [List.append_assoc, List.append_assoc, start]
  cases body with
  | nil => rfl
  | cons b body =>
    have first : Scan.step ⟨opened, events, .instructionStart⟩ b =
        some ⟨opened, events, .instruction ([b].head? = some (ascii '?'))⟩ := by
      have other : b ≠ ascii '>' := by simpa using named
      simp [step, goto, other]
    rw [List.cons_append, run_cons, first, Option.bind_some,
      run_until opened events (fun met => .instruction (met.head? = some (ascii '?')))
        (step_instruction opened events) [b] body within, stop]

/-- Fragments up to the tag that follows, behind a piece that has been read. -/
theorem run_fragments (fragments : List Fragment) (p : List Char) (rest : List UInt8) :
    Scan.run ⟨opened, events, .text (p.flatMap String.utf8EncodeChar).reverse⟩
        (fragments.flatMap Fragment.bytes ++ ascii '<' :: rest) =
      Scan.run ⟨opened, flush (p ++ fragments.flatMap Fragment.chars) events, .markup⟩ rest := by
  induction fragments generalizing p events with
  | nil => simpa using run_tagStart opened events p rest
  | cons fragment fragments ih =>
    -- what begins with a tag ends the piece, and leaves an empty one
    have marked : ∀ {inner chars}, fragment.bytes = ascii '<' :: inner → fragment.chars = chars →
        (∀ events later, Scan.run ⟨opened, events, .markup⟩ (inner ++ later) =
          Scan.run ⟨opened, flush chars events, .text []⟩ later) →
        Scan.run ⟨opened, events, .text (p.flatMap String.utf8EncodeChar).reverse⟩
          ((fragment :: fragments).flatMap Fragment.bytes ++ ascii '<' :: rest) =
        Scan.run ⟨opened, flush (p ++ (fragment :: fragments).flatMap Fragment.chars) events,
          .markup⟩ rest := by
      intro inner chars spelt meant read
      have next := ih (flush chars (flush p events)) []
      rw [List.flatMap_cons, spelt, List.append_assoc, List.cons_append, run_tagStart, read,
        List.flatMap_cons, meant]
      simpa [flush_append] using next
    cases fragment with
    | literal s plain =>
      have kept : ∀ b ∈ utf8 s, b ≠ ascii '<' ∧ b ≠ ascii '&' := fun b mem =>
        ⟨ne_ascii_of_not_mem (by decide) plain.1 b mem,
          ne_ascii_of_not_mem (by decide) plain.2 b mem⟩
      have next := ih events (p ++ s.toList)
      rw [List.flatMap_cons, List.append_assoc, Fragment.bytes, run_piece kept]
      simpa [utf8, Fragment.chars] using next
    | reference name c refers =>
      have next := ih (flush (p ++ [c]) events) []
      rw [List.nil_append, ← flush_append] at next
      rw [List.flatMap_cons, List.append_assoc, Fragment.bytes,
        run_entity opened (run_refers opened · refers)]
      simpa [Fragment.chars] using next
    | data s filled within =>
      exact marked rfl rfl fun events => run_data opened events filled within
    | comment body within =>
      exact marked rfl rfl fun events => run_comment opened events within
    | instruction body named within =>
      exact marked rfl rfl fun events => run_instruction opened events named within

end Scan
end ServiceClient.Markup
