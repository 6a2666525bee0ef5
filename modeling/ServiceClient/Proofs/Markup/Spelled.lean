import ServiceClient.Markup.Reader
import ServiceClient.Proofs.Markup.Fragments

/-! The events of a document are those of the element it spells, whichever way this is written. -/

namespace ServiceClient.Markup
open ServiceClient.Text

namespace FullName

/-- What may stand in a name with a prefix. -/
theorem named_or_colon (n : FullName) : ∀ b ∈ n.bytes, isNameByte b ∨ b = ascii ':' := by
  intro b mem
  rw [bytes] at mem
  split at mem
  · exact .inl (Scan.bytes_of_isName n.own.2 b mem)
  · rename_i q _
    rw [List.mem_append, List.mem_cons] at mem
    rcases mem with mem | colon | mem
    · exact .inl (Scan.bytes_of_isName q.2 b mem)
    · exact .inr colon
    · exact .inl (Scan.bytes_of_isName n.own.2 b mem)

theorem ne_of_mem (n : FullName) {b c : UInt8} (mem : b ∈ n.bytes) (other : isNameByte c = false)
    (noColon : c ≠ ascii ':') : b ≠ c := by
  rintro rfl
  rcases n.named_or_colon b mem with named | colon
  · simp [other] at named
  · exact noColon colon

theorem isSpace_of_mem (n : FullName) {b : UInt8} (mem : b ∈ n.bytes) : isSpace b = false := by
  have space : b ≠ 0x20 := n.ne_of_mem mem (by decide) (by decide)
  have tab : b ≠ 9 := n.ne_of_mem mem (by decide) (by decide)
  have line : b ≠ 10 := n.ne_of_mem mem (by decide) (by decide)
  have carriage : b ≠ 13 := n.ne_of_mem mem (by decide) (by decide)
  simp [isSpace, space, tab, line, carriage]

theorem bytes_ne_nil (n : FullName) : n.bytes ≠ [] := by
  rw [bytes]
  split
  · exact Scan.utf8_ne_nil n.own.2
  · simp

/-- The prefix and its colon are dropped. -/
theorem localPart_bytes (n : FullName) : localPart n.bytes = utf8 n.own.1 := by
  rw [bytes]
  split
  · exact Scan.localPart_of_named (Scan.bytes_of_isName n.own.2)
  · rename_i q _
    have passed : ∀ b ∈ utf8 q.1, (b != ascii ':') = true := fun b mem =>
      bne_iff_ne.mpr (Scan.ne_of_named (Scan.bytes_of_isName q.2) mem (by decide))
    simp [localPart, List.dropWhile_append_of_pos passed]

end FullName

namespace Scan
variable (opened : List (List UInt8)) (events : List Event)

/-- Bytes that leave an opening tag where it was, outside of quotes. -/
def Inside (bytes : List UInt8) : Prop :=
  ∀ opened events content rest,
    Scan.run ⟨opened, events, .opening none content⟩ (bytes ++ rest) =
      Scan.run ⟨opened, events, .opening none (bytes.reverse ++ content)⟩ rest

namespace Inside
variable {xs ys : List UInt8}

theorem append (first : Inside xs) (second : Inside ys) : Inside (xs ++ ys) := by
  intro opened events content rest
  rw [List.append_assoc, first, second, List.reverse_append, List.append_assoc]

theorem flatMap {α : Type} {f : α → List UInt8} {as : List α} (each : ∀ a ∈ as, Inside (f a)) :
    Inside (as.flatMap f) := by
  induction as with
  | nil => exact fun _ _ _ _ => rfl
  | cons a as ih =>
    rw [List.flatMap_cons]
    exact (each a List.mem_cons_self).append (ih fun b mem => each b (List.mem_cons_of_mem _ mem))

theorem of_plain (plain : ∀ b ∈ xs, b ≠ ascii '>' ∧ b ≠ ascii '"' ∧ b ≠ ascii '\'') :
    Inside xs := by
  intro opened events content rest
  refine run_kept (fun b mem met => ?_) content rest
  obtain ⟨close, double, single⟩ := plain b mem
  simp [step, close, double, single, goto]

theorem of_space (space : Space) : Inside space.1 := by
  refine of_plain fun b mem => ?_
  have white := space.2 b mem
  refine ⟨?_, ?_, ?_⟩ <;> rintro rfl <;> exact absurd white (by decide)

theorem of_name (n : FullName) : Inside n.bytes :=
  of_plain fun _ mem => ⟨n.ne_of_mem mem (by decide) (by decide),
    n.ne_of_mem mem (by decide) (by decide), n.ne_of_mem mem (by decide) (by decide)⟩

/-- A quoted part holds anything but its quote. -/
theorem of_quoted {quote : UInt8} (quotes : quote = ascii '"' ∨ quote = ascii '\'')
    (absent : quote ∉ xs) : Inside (quote :: xs ++ [quote]) := by
  intro opened events content rest
  have starts : Scan.step ⟨opened, events, .opening none content⟩ quote =
      some ⟨opened, events, .opening (some quote) (quote :: content)⟩ := by
    rcases quotes with rfl | rfl <;> rfl
  have kept : ∀ b ∈ xs, ∀ met, Scan.step ⟨opened, events, .opening (some quote) met⟩ b =
      some ⟨opened, events, .opening (some quote) (b :: met)⟩ := by
    intro b mem met
    have other : b ≠ quote := fun same => absent (same ▸ mem)
    simp [step, other, goto]
  rw [List.append_assoc, List.cons_append, run_cons, starts, Option.bind_some,
    run_kept kept, List.singleton_append, run_cons]
  simp [step, goto]

theorem of_attribute (a : Attribute) : Inside a.bytes := by
  have sign : Inside [ascii '='] := of_plain (List.forall_mem_singleton.mpr (by decide))
  have name := (of_space a.before).append (of_name a.name)
  have value := (of_space a.afterSign).append (of_quoted a.quotes a.inside)
  have whole := ((name.append (of_space a.beforeSign)).append sign).append value
  simpa [Attribute.bytes] using whole

end Inside

end Scan

namespace Tag

/-- After the name a tag ends, or white space follows. -/
theorem nameOf_bytes (t : Tag) : nameOf t.bytes = t.name.bytes := by
  have named : ∀ b ∈ t.name.bytes, (!isSpace b) = true := fun b mem => by
    simp [t.name.isSpace_of_mem mem]
  have apart : (t.attributes.flatMap Attribute.bytes ++ t.after.1).takeWhile (!isSpace ·) = [] := by
    cases t.attributes with
    | nil =>
      rw [List.flatMap_nil, List.nil_append, List.takeWhile_eq_nil_iff]
      intro filled
      simp [t.after.2 _ (List.getElem_mem filled)]
    | cons a later =>
      obtain ⟨b, space, spelt⟩ := List.exists_cons_of_ne_nil a.apart
      have white : isSpace b := a.before.2 b (spelt ▸ List.mem_cons_self)
      simp [Attribute.bytes, spelt, white]
  rw [nameOf, bytes, List.append_assoc, List.takeWhile_append_of_pos named, apart, List.append_nil]

/-- A tag does not end with a slash of its own. -/
theorem getLast?_bytes (t : Tag) : t.bytes.getLast? ≠ some (ascii '/') := by
  have ends : ∀ {xs ys : List UInt8}, ys.getLast? ≠ some (ascii '/') →
      xs.getLast? ≠ some (ascii '/') → (xs ++ ys).getLast? ≠ some (ascii '/') := by
    intro xs ys last before
    rw [List.getLast?_append]
    cases found : ys.getLast? with
    | none => exact before
    | some b =>
      rw [Option.some_or, ← found]
      exact last
  have absent : ∀ {xs : List UInt8}, ascii '/' ∉ xs → xs.getLast? ≠ some (ascii '/') :=
    fun none found => none (List.mem_of_getLast? found)
  have name : t.name.bytes.getLast? ≠ some (ascii '/') :=
    absent fun mem => t.name.ne_of_mem mem (by decide) (by decide) rfl
  have after : t.after.1.getLast? ≠ some (ascii '/') :=
    absent fun mem => absurd (t.after.2 _ mem) (by decide)
  have attributes : (t.attributes.flatMap Attribute.bytes).getLast? ≠ some (ascii '/') := by
    induction t.attributes with
    | nil => simp
    | cons a later ih =>
      rw [List.flatMap_cons]
      refine ends ih ?_
      have quote : a.bytes.getLast? = some a.quote := by
        rw [Attribute.bytes, List.getLast?_concat]
      rw [quote]
      rcases a.quotes with same | same <;> rw [same] <;> decide
  exact ends after (ends attributes name)

end Tag

namespace Scan
variable (opened : List (List UInt8)) (events : List Event)

theorem run_tag (t : Tag) (rest : List UInt8) :
    Scan.run ⟨opened, events, .markup⟩ (t.bytes ++ rest) =
      Scan.run ⟨opened, events, .opening none t.bytes.reverse⟩ rest := by
  obtain ⟨b, later, spelt⟩ := List.exists_cons_of_ne_nil t.name.bytes_ne_nil
  have here : ∀ {c}, isNameByte c = false → c ≠ ascii ':' → b ≠ c :=
    t.name.ne_of_mem (spelt ▸ List.mem_cons_self)
  have first : Scan.step ⟨opened, events, .markup⟩ b =
      some ⟨opened, events, .opening none [b]⟩ := by
    have close : b ≠ ascii '>' := here (by decide) (by decide)
    have single : b ≠ ascii '\'' := here (by decide) (by decide)
    have double : b ≠ ascii '"' := here (by decide) (by decide)
    have slash : b ≠ ascii '/' := here (by decide) (by decide)
    have bang : b ≠ ascii '!' := here (by decide) (by decide)
    have question : b ≠ ascii '?' := here (by decide) (by decide)
    simp [step, close, single, double, slash, bang, question, goto]
  have name : Inside later := Inside.of_plain fun c mem => by
    have within : c ∈ t.name.bytes := spelt ▸ List.mem_cons_of_mem b mem
    exact ⟨t.name.ne_of_mem within (by decide) (by decide),
      t.name.ne_of_mem within (by decide) (by decide),
      t.name.ne_of_mem within (by decide) (by decide)⟩
  have whole : Inside (later ++ t.attributes.flatMap Attribute.bytes ++ t.after.1) :=
    (name.append (Inside.flatMap fun a _ => Inside.of_attribute a)).append (Inside.of_space t.after)
  rw [Tag.bytes, spelt, List.cons_append, List.cons_append, List.cons_append, run_cons, first,
    Option.bind_some, whole, List.reverse_cons]

theorem run_openingTag (t : Tag) (rest : List UInt8) :
    Scan.run ⟨opened, events, .markup⟩ (t.bytes ++ ascii '>' :: rest) =
      Scan.run ⟨t.name.bytes :: opened, .opening t.name.own.1 :: events, .text []⟩ rest := by
  have ended : endOpening t.bytes.reverse ⟨opened, events, .opening none t.bytes.reverse⟩ =
      some ⟨t.name.bytes :: opened, .opening t.name.own.1 :: events, .text []⟩ := by
    unfold endOpening
    split
    · rename_i before slash
      have last : t.bytes.getLast? = some (ascii '/') := by
        rw [← List.head?_reverse, slash]
        rfl
      exact absurd last t.getLast?_bytes
    · simp [t.nameOf_bytes, t.name.localPart_bytes, Utf8.decode?_utf8]
  rw [run_tag, run_cons]
  simp [step, ended]

theorem run_wholeTag (t : Tag) (rest : List UInt8) :
    Scan.run ⟨opened, events, .markup⟩ (t.bytes ++ ascii '/' :: ascii '>' :: rest) =
      Scan.run ⟨opened, .closing t.name.own.1 :: .opening t.name.own.1 :: events, .text []⟩
        rest := by
  have slash : Inside [ascii '/'] :=
    Inside.of_plain (List.forall_mem_singleton.mpr (by decide))
  have closes := slash opened events t.bytes.reverse (ascii '>' :: rest)
  rw [run_tag]
  refine closes.trans ?_
  rw [run_cons]
  simp [step, endOpening, ascii, t.nameOf_bytes, t.name.localPart_bytes, Utf8.decode?_utf8]

theorem closingName_bytes (n : FullName) (after : Space) :
    closingName (n.bytes ++ after.1) = n.bytes := by
  have filled : (n.bytes ++ after.1).all isSpace = false := by
    obtain ⟨b, later, spelt⟩ := List.exists_cons_of_ne_nil n.bytes_ne_nil
    have named : isSpace b = false := n.isSpace_of_mem (spelt ▸ List.mem_cons_self)
    simp [spelt, named]
  have white : ∀ b ∈ after.1.reverse, isSpace b = true :=
    fun b mem => after.2 b (List.mem_reverse.mp mem)
  have stays : n.bytes.reverse.dropWhile isSpace = n.bytes.reverse := by
    rw [List.dropWhile_eq_self_iff]
    intro some
    rw [n.isSpace_of_mem (List.mem_reverse.mp (List.getElem_mem some))]
    exact Bool.false_ne_true
  rw [closingName, filled, List.reverse_append, List.dropWhile_append_of_pos white, stays,
    List.reverse_reverse]
  rfl

theorem run_closingTag (n : FullName) (after : Space) (rest : List UInt8) :
    Scan.run ⟨n.bytes :: opened, events, .markup⟩
        (ascii '/' :: (n.bytes ++ after.1 ++ ascii '>' :: rest)) =
      Scan.run ⟨opened, .closing n.own.1 :: events, .text []⟩ rest := by
  have slash : Scan.step ⟨n.bytes :: opened, events, .markup⟩ (ascii '/') =
      some ⟨n.bytes :: opened, events, .closing []⟩ := by
    simp [step, goto]
  have kept : ∀ b ∈ n.bytes ++ after.1, ∀ met,
      Scan.step ⟨n.bytes :: opened, events, .closing met⟩ b =
        some ⟨n.bytes :: opened, events, .closing (b :: met)⟩ := by
    intro b mem met
    have close : b ≠ ascii '>' := by
      rcases List.mem_append.mp mem with mem | mem
      · exact n.ne_of_mem mem (by decide) (by decide)
      · rintro rfl
        exact absurd (after.2 _ mem) (by decide)
    simp [step, close, goto]
  rw [run_cons, slash, Option.bind_some, run_kept kept, List.append_nil, run_cons]
  simp [step, endClosing, closingName_bytes, n.localPart_bytes,
    Utf8.decode?_utf8]

end Scan

/-- Text that is added behind a tag is a text of its own. -/
theorem flush_tag (chars : List Char) {events : List Event}
    (tag : ∀ s rest, events ≠ .text s :: rest) :
    flush chars events = (textEvents (String.ofList chars)).reverse ++ events := by
  by_cases empty : chars = []
  · simp [flush, textEvents, empty]
  · have alone : addText (String.ofList chars) events = .text (String.ofList chars) :: events := by
      unfold addText
      split
      · exact absurd rfl (tag _ _)
      · rfl
    simp [flush, textEvents, empty, alone]

theorem Element.head_reverse_events (e : Element) (events : List Event) :
    ∀ s rest, e.events.reverse ++ events ≠ .text s :: rest := by
  cases e
  simp [Element.events]

mutual

theorem Scan.run_spelling (w : Spelling) (opened : List (List UInt8)) (events : List Event)
    (lead : List Fragment) (rest : List UInt8) :
    Scan.run ⟨opened, events, .text []⟩ (lead.flatMap Fragment.bytes ++ (w.bytes ++ rest)) =
      Scan.run ⟨opened, w.element.events.reverse ++ flush (lead.flatMap Fragment.chars) events,
        .text []⟩ rest := by
  cases w with
  | whole tag =>
    have bytes : (Spelling.whole tag).bytes ++ rest =
        ascii '<' :: (tag.bytes ++ ascii '/' :: ascii '>' :: rest) := by
      simp [Spelling.bytes, asciiBytes]
    rw [bytes]
    refine (Scan.run_fragments opened events lead [] _).trans ?_
    rw [Scan.run_wholeTag]
    simp [Spelling.element, Element.events, Element.childEvents, textEvents]
  | pair tag inner children after =>
    have bytes : (Spelling.pair tag inner children after).bytes ++ rest =
        ascii '<' :: (tag.bytes ++ ascii '>' :: (inner.flatMap Fragment.bytes ++
          (Spelling.childBytes children ++
            ascii '<' :: (ascii '/' :: (tag.name.bytes ++ after.1 ++ ascii '>' :: rest))))) := by
      simp [Spelling.bytes, asciiBytes]
    rw [bytes]
    refine (Scan.run_fragments opened events lead [] _).trans ?_
    rw [Scan.run_openingTag, Scan.run_content children _ (by simp), Scan.run_closingTag]
    simp [Spelling.element, Element.events]

theorem Scan.run_content (children : List (Spelling × List Fragment)) (opened : List (List UInt8))
    {events : List Event} (tag : ∀ s rest, events ≠ .text s :: rest) (lead : List Fragment)
    (rest : List UInt8) :
    Scan.run ⟨opened, events, .text []⟩
        (lead.flatMap Fragment.bytes ++ (Spelling.childBytes children ++ ascii '<' :: rest)) =
      Scan.run ⟨opened, (textEvents (textOf lead) ++
        Element.childEvents (Spelling.elements children)).reverse ++ events, .markup⟩ rest := by
  cases children with
  | nil =>
    refine (Scan.run_fragments opened events lead [] _).trans ?_
    rw [List.nil_append, flush_tag _ tag]
    simp [Spelling.elements, Element.childEvents, textOf]
  | cons child children =>
    obtain ⟨w, tail⟩ := child
    have bytes : Spelling.childBytes ((w, tail) :: children) ++ ascii '<' :: rest =
        w.bytes ++ (tail.flatMap Fragment.bytes ++
          (Spelling.childBytes children ++ ascii '<' :: rest)) := by
      simp [Spelling.childBytes]
    rw [bytes, Scan.run_spelling w, Scan.run_content children _ (w.element.head_reverse_events _),
      flush_tag _ tag]
    simp [Spelling.elements, Element.childEvents, textOf]

end

theorem ofBytes_spelling :
    (∀ e : Element, ∃ w : Spelling, w.element = e) ∧
      ∀ w : Spelling, ofBytes w.bytes = .ok w.element.events := by
  refine ⟨fun e => ⟨e.spelling, e.element_spelling⟩, fun w => ?_⟩
  have unmarked : dropMark w.bytes = w.bytes := by
    cases w <;> rfl
  have whole := Scan.run_spelling w [] [] [] []
  simp only [List.flatMap_nil, List.nil_append, List.append_nil] at whole
  have read : events? w.bytes = some w.element.events := by
    rw [events?, unmarked, whole]
    simp [Scan.run, Scan.finish, Scan.endPiece, flush]
  rw [ofBytes, read]

end ServiceClient.Markup
