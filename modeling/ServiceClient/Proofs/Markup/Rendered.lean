import ServiceClient.Markup.Scan
import ServiceClient.Proofs.Markup.Rendering
import ServiceClient.Proofs.Text.Utf8
import Mathlib.Data.List.TakeWhile

/-! Scanning a rendered tree yields the events of the tree. Character data are carried by one
invariant: what has been read of a text stands in the events, or in the piece that is not ended
yet. -/

namespace ServiceClient.Markup
open ServiceClient.Text

theorem utf8_append (s t : String) : utf8 (s ++ t) = utf8 s ++ utf8 t := by
  simp [utf8]

theorem utf8_ofList (s : List Char) : utf8 (String.ofList s) = s.flatMap String.utf8EncodeChar := by
  simp [utf8]

/-- Text added to the events; no text adds nothing. -/
def flush (p : List Char) (events : List Event) : List Event :=
  if p = [] then events else addText (String.ofList p) events

theorem addText_addText (s t : String) (events : List Event) :
    addText t (addText s events) = addText (s ++ t) events := by
  cases events with
  | nil => simp [addText]
  | cons e events => cases e <;> simp [addText, String.append_assoc]

theorem flush_append (p q : List Char) (events : List Event) :
    flush (p ++ q) events = flush q (flush p events) := by
  by_cases first : p = []
  · simp [flush, first]
  by_cases second : q = []
  · simp [flush, second]
  · simp [flush, first, second, addText_addText, String.ofList_append]

namespace Scan

theorem run_append (s : Scan) (xs ys : List UInt8) :
    s.run (xs ++ ys) = (s.run xs).bind fun s => s.run ys := by
  simp [run, List.foldlM_append]

theorem run_cons (s : Scan) (b : UInt8) (bytes : List UInt8) :
    s.run (b :: bytes) = (s.step b).bind fun s => s.run bytes := by
  simp [run]

theorem endPiece_utf8 (p : List Char) (s : Scan) :
    s.endPiece (p.flatMap String.utf8EncodeChar).reverse =
      some { s with events := flush p s.events } := by
  cases p with
  | nil => rfl
  | cons c p =>
    have some : (((c :: p).flatMap String.utf8EncodeChar).reverse).isEmpty = false := by
      simp [String.utf8EncodeChar_ne_nil]
    have read := Utf8.decode?_utf8 (String.ofList (c :: p))
    rw [utf8_ofList] at read
    rw [endPiece, some, List.reverse_reverse, read]
    simp [flush]

/-- Bytes that are all kept, where the place keeps the bytes it has met last byte first. -/
theorem run_kept {place : List UInt8 → Place} {opened : List (List UInt8)} {events : List Event}
    {bytes : List UInt8} (kept : ∀ b ∈ bytes, ∀ met,
      Scan.step ⟨opened, events, place met⟩ b = some ⟨opened, events, place (b :: met)⟩)
    (met rest : List UInt8) :
    Scan.run ⟨opened, events, place met⟩ (bytes ++ rest) =
      Scan.run ⟨opened, events, place (bytes.reverse ++ met)⟩ rest := by
  induction bytes generalizing met with
  | nil => rfl
  | cons b bytes ih =>
    rw [List.cons_append, run_cons, kept b List.mem_cons_self, Option.bind_some,
      ih fun b mem => kept b (List.mem_cons_of_mem _ mem)]
    simp

theorem run_piece {bytes : List UInt8} (plain : ∀ b ∈ bytes, b ≠ ascii '<' ∧ b ≠ ascii '&')
    (opened : List (List UInt8)) (events : List Event) (piece rest : List UInt8) :
    Scan.run ⟨opened, events, .text piece⟩ (bytes ++ rest) =
      Scan.run ⟨opened, events, .text (bytes.reverse ++ piece)⟩ rest := by
  refine run_kept (fun b mem met => ?_) piece rest
  obtain ⟨tag, reference⟩ := plain b mem
  simp [step, tag, reference, goto]

theorem ne_ascii_of_ne {c d : Char} (low : d.toNat < 0x80) (other : c ≠ d) :
    ∀ b ∈ String.utf8EncodeChar c, b ≠ ascii d := by
  rintro b mem rfl
  have value : (ascii d).toNat = d.toNat := Utf8.toNat_byte (by omega)
  have same : d.toNat = c.toNat := value ▸ Utf8.eq_of_mem_utf8EncodeChar mem (by omega)
  exact other (Char.ext (UInt32.toNat_inj.mp same.symm))

theorem plain_of_ne {c : Char} (tag : c ≠ '<') (reference : c ≠ '&') :
    ∀ b ∈ String.utf8EncodeChar c, b ≠ ascii '<' ∧ b ≠ ascii '&' := fun b mem =>
  ⟨ne_ascii_of_ne (by decide) tag b mem, ne_ascii_of_ne (by decide) reference b mem⟩

/-- The tag that follows ends a piece. -/
theorem run_tagStart (opened : List (List UInt8)) (events : List Event) (p : List Char)
    (rest : List UInt8) :
    Scan.run ⟨opened, events, .text (p.flatMap String.utf8EncodeChar).reverse⟩
        (ascii '<' :: rest) =
      Scan.run ⟨opened, flush p events, .markup⟩ rest := by
  rw [run_cons]
  simp [step, endPiece_utf8, goto]

/-- A reference ends the piece before it, and stands for its character. -/
theorem run_entity {c : Char} {bytes : List UInt8} (opened : List (List UInt8))
    (entity : ∀ events rest, Scan.run ⟨opened, events, .reference []⟩ (bytes ++ rest) =
      Scan.run ⟨opened, addText (String.singleton c) events, .text []⟩ rest)
    (events : List Event) (p : List Char) (rest : List UInt8) :
    Scan.run ⟨opened, events, .text (p.flatMap String.utf8EncodeChar).reverse⟩
        (ascii '&' :: bytes ++ rest) =
      Scan.run ⟨opened, flush (p ++ [c]) events, .text []⟩ rest := by
  have single : addText (String.singleton c) (flush p events) = flush (p ++ [c]) events := by
    rw [flush_append, String.singleton_eq_ofList]
    rfl
  rw [List.cons_append, run_cons, ← single, ← entity]
  simp [step, endPiece_utf8, goto, ascii]

/-- Escaped text up to the tag that follows, behind a piece that has been read. -/
theorem run_escaped (opened : List (List UInt8)) (events : List Event) (p q : List Char)
    (rest : List UInt8) :
    Scan.run ⟨opened, events, .text (p.flatMap String.utf8EncodeChar).reverse⟩
        ((q.flatMap escapeChar).flatMap String.utf8EncodeChar ++ ascii '<' :: rest) =
      Scan.run ⟨opened, flush (p ++ q) events, .markup⟩ rest := by
  induction q generalizing p events with
  | nil => rw [List.append_nil, ← run_tagStart]; rfl
  | cons c q ih =>
    have entity : ∀ bytes, (escapeChar c).flatMap String.utf8EncodeChar = ascii '&' :: bytes →
        (∀ events rest, Scan.run ⟨opened, events, .reference []⟩ (bytes ++ rest) =
          Scan.run ⟨opened, addText (String.singleton c) events, .text []⟩ rest) →
        Scan.run ⟨opened, events, .text (p.flatMap String.utf8EncodeChar).reverse⟩
          (((c :: q).flatMap escapeChar).flatMap String.utf8EncodeChar ++ ascii '<' :: rest) =
        Scan.run ⟨opened, flush (p ++ c :: q) events, .markup⟩ rest := by
      intro bytes spelt reference
      have next := ih (flush (p ++ [c]) events) []
      rw [List.nil_append, ← flush_append] at next
      rw [List.flatMap_cons, List.flatMap_append, spelt, List.append_assoc,
        run_entity opened reference]
      simpa using next
    by_cases amp : c = '&'
    · subst amp
      exact entity (asciiBytes "amp;") rfl fun _ _ => rfl
    by_cases lt : c = '<'
    · subst lt
      exact entity (asciiBytes "lt;") rfl fun _ _ => rfl
    by_cases gt : c = '>'
    · subst gt
      exact entity (asciiBytes "gt;") rfl fun _ _ => rfl
    · have plain : escapeChar c = [c] := by
        unfold escapeChar
        split <;> simp_all
      have next := ih events (p ++ [c])
      rw [List.flatMap_cons, List.flatMap_append, plain, List.append_assoc, List.flatMap_singleton,
        run_piece (plain_of_ne lt amp)]
      simpa using next

section Names
variable {bytes : List UInt8} (named : ∀ b ∈ bytes, isNameByte b)
include named

theorem ne_of_named {b c : UInt8} (mem : b ∈ bytes) (other : isNameByte c = false) : b ≠ c := by
  rintro rfl
  simp [named b mem] at other

theorem isSpace_of_named {b : UInt8} (mem : b ∈ bytes) : isSpace b = false := by
  have space : b ≠ 0x20 := ne_of_named named mem (by decide)
  have tab : b ≠ 9 := ne_of_named named mem (by decide)
  have line : b ≠ 10 := ne_of_named named mem (by decide)
  have carriage : b ≠ 13 := ne_of_named named mem (by decide)
  simp [isSpace, space, tab, line, carriage]

theorem localPart_of_named : localPart bytes = bytes := by
  have plain : bytes.contains (ascii ':') = false := by
    rw [List.contains_eq_mem, decide_eq_false_iff_not]
    intro mem
    exact ne_of_named named mem (by decide) rfl
  rw [localPart, plain]
  rfl

theorem nameOf_of_named : nameOf bytes = bytes := by
  rw [nameOf, List.takeWhile_eq_self_iff]
  intro b mem
  simp [isSpace_of_named named mem]

theorem closingName_of_named : closingName bytes = bytes := by
  unfold closingName
  split
  · rfl
  · cases turned : bytes.reverse with
    | nil => simpa using turned.symm
    | cons b rest =>
      have mem : b ∈ bytes := List.mem_reverse.mp (turned ▸ List.mem_cons_self)
      rw [List.dropWhile_cons_of_neg (by simp [isSpace_of_named named mem]), ← turned,
        List.reverse_reverse]

theorem run_opening (opened : List (List UInt8)) (events : List Event) (content rest : List UInt8) :
    Scan.run ⟨opened, events, .opening none content⟩ (bytes ++ rest) =
      Scan.run ⟨opened, events, .opening none (bytes.reverse ++ content)⟩ rest := by
  refine run_kept (fun b mem met => ?_) content rest
  have ends : b ≠ ascii '>' := ne_of_named named mem (by decide)
  have single : b ≠ ascii '\'' := ne_of_named named mem (by decide)
  have double : b ≠ ascii '"' := ne_of_named named mem (by decide)
  simp [step, ends, single, double, goto]

theorem run_closing (opened : List (List UInt8)) (events : List Event) (content rest : List UInt8) :
    Scan.run ⟨opened, events, .closing content⟩ (bytes ++ rest) =
      Scan.run ⟨opened, events, .closing (bytes.reverse ++ content)⟩ rest := by
  refine run_kept (fun b mem met => ?_) content rest
  have ends : b ≠ ascii '>' := ne_of_named named mem (by decide)
  simp [step, ends, goto]

end Names

section Tags
variable {tag : String} (named : isName tag)
include named

theorem bytes_of_isName : ∀ b ∈ utf8 tag, isNameByte b := by
  simp only [isName, Bool.and_eq_true, List.all_eq_true] at named
  exact named.2

theorem endOpening_tag (opened : List (List UInt8)) (events : List Event) (place : Place) :
    Scan.endOpening (utf8 tag).reverse ⟨opened, events, place⟩ =
      some ⟨utf8 tag :: opened, .opening tag :: events, .text []⟩ := by
  have bytes := bytes_of_isName named
  unfold endOpening
  split
  · rename_i rest slash
    have mem : 0x2F ∈ utf8 tag := List.mem_reverse.mp (slash ▸ List.mem_cons_self)
    exact absurd rfl (ne_of_named bytes mem (by decide))
  · simp [nameOf_of_named bytes, localPart_of_named bytes, Utf8.decode?_utf8]

theorem utf8_ne_nil : utf8 tag ≠ [] := by
  intro none
  have read := Utf8.decode?_utf8 tag
  rw [none] at read
  have empty : tag = "" := by simpa [Utf8.decode?, Utf8.scan] using read.symm
  simp [isName, empty] at named

theorem run_openTag (opened : List (List UInt8)) (events : List Event) (rest : List UInt8) :
    Scan.run ⟨opened, events, .markup⟩ (utf8 tag ++ ascii '>' :: rest) =
      Scan.run ⟨utf8 tag :: opened, .opening tag :: events, .text []⟩ rest := by
  have inTag : Scan.run ⟨opened, events, .markup⟩ (utf8 tag ++ ascii '>' :: rest) =
      Scan.run ⟨opened, events, .opening none (utf8 tag).reverse⟩ (ascii '>' :: rest) := by
    have bytes := bytes_of_isName named
    obtain ⟨b, later, spelt⟩ := List.exists_cons_of_ne_nil (utf8_ne_nil named)
    rw [spelt] at bytes ⊢
    have mem : b ∈ b :: later := List.mem_cons_self
    have ends : b ≠ ascii '>' := ne_of_named bytes mem (by decide)
    have single : b ≠ ascii '\'' := ne_of_named bytes mem (by decide)
    have double : b ≠ ascii '"' := ne_of_named bytes mem (by decide)
    have slash : b ≠ ascii '/' := ne_of_named bytes mem (by decide)
    have bang : b ≠ ascii '!' := ne_of_named bytes mem (by decide)
    have question : b ≠ ascii '?' := ne_of_named bytes mem (by decide)
    have stepped : Scan.step ⟨opened, events, .markup⟩ b =
        some ⟨opened, events, .opening none [b]⟩ := by
      simp [step, ends, single, double, slash, bang, question, goto]
    rw [List.cons_append, run_cons, stepped, Option.bind_some,
      run_opening fun b mem => bytes b (List.mem_cons_of_mem _ mem), List.reverse_cons]
  rw [inTag, run_cons]
  simp [step, endOpening_tag named]

theorem run_closeTag (opened : List (List UInt8)) (events : List Event) (rest : List UInt8) :
    Scan.run ⟨utf8 tag :: opened, events, .markup⟩ (ascii '/' :: utf8 tag ++ ascii '>' :: rest) =
      Scan.run ⟨opened, .closing tag :: events, .text []⟩ rest := by
  have bytes := bytes_of_isName named
  have stepped : Scan.step ⟨utf8 tag :: opened, events, .markup⟩ (ascii '/') =
      some ⟨utf8 tag :: opened, events, .closing []⟩ := by
    simp [step, goto]
  rw [List.cons_append, run_cons, stepped, Option.bind_some, run_closing bytes, List.append_nil,
    run_cons]
  simp [step, endClosing, closingName_of_named bytes, localPart_of_named bytes, Utf8.decode?_utf8]

end Tags

/-- What scanning the content of an element does, from behind its tag up to the next one. -/
def Reads (n : Node) : Prop :=
  ∀ opened tag events rest,
    Scan.run ⟨opened, .opening tag :: events, .text []⟩ (utf8 n.render ++ ascii '<' :: rest) =
      Scan.run ⟨opened, n.events.reverse ++ .opening tag :: events, .markup⟩ rest

theorem reads_text (s : String) : Reads (.mk (some s) []) := by
  intro opened tag events rest
  have whole := run_escaped opened (.opening tag :: events) [] s.toList rest
  rw [Node.render, escape, utf8_ofList, Node.events]
  apply whole.trans
  by_cases empty : s = ""
  · simp [empty, flush]
  · have chars : s.toList ≠ [] := fun none => empty (String.toList_eq_nil_iff.mp none)
    simp [empty, flush, chars, addText]

theorem run_element {tag : String} (named : isName tag) {n : Node} (reads : Reads n)
    (opened : List (List UInt8)) (events : List Event) (rest : List UInt8) :
    Scan.run ⟨opened, events, .text []⟩
        (utf8 ("<" ++ tag ++ ">" ++ n.render ++ "</" ++ tag ++ ">") ++ rest) =
      Scan.run ⟨opened, .closing tag :: n.events.reverse ++ .opening tag :: events, .text []⟩
        rest := by
  have start := run_tagStart opened events [] (utf8 tag ++ ascii '>' ::
    (utf8 n.render ++ ascii '<' :: (ascii '/' :: utf8 tag ++ ascii '>' :: rest)))
  have bytes : utf8 ("<" ++ tag ++ ">" ++ n.render ++ "</" ++ tag ++ ">") ++ rest =
      ascii '<' :: (utf8 tag ++ ascii '>' ::
        (utf8 n.render ++ ascii '<' :: (ascii '/' :: utf8 tag ++ ascii '>' :: rest))) := by
    have signs : utf8 "<" = [ascii '<'] ∧ utf8 ">" = [ascii '>'] ∧
        utf8 "</" = [ascii '<', ascii '/'] := ⟨rfl, rfl, rfl⟩
    simp [utf8_append, signs]
  rw [bytes]
  apply start.trans
  rw [run_openTag named, reads, run_closeTag named]
  rfl

theorem run_children {children : List (Key × Node)} (named : ∀ child ∈ children, isTag child.1.1)
    (reads : ∀ child ∈ children, Reads child.2) (opened : List (List UInt8)) (events : List Event)
    (rest : List UInt8) :
    Scan.run ⟨opened, events, .text []⟩ (utf8 (Node.renderChildren children) ++ rest) =
      Scan.run ⟨opened, (Node.childEvents children).reverse ++ events, .text []⟩ rest := by
  induction children generalizing events with
  | nil => simp [Node.renderChildren, Node.childEvents, utf8]
  | cons child children ih =>
    obtain ⟨⟨tag, index⟩, n⟩ := child
    rw [Node.renderChildren, utf8_append, List.append_assoc,
      run_element (isName_of_isTag (named _ List.mem_cons_self)) (reads _ List.mem_cons_self),
      ih (fun c mem => named c (List.mem_cons_of_mem _ mem))
        (fun c mem => reads c (List.mem_cons_of_mem _ mem))]
    simp [Node.childEvents]

theorem reads_of_canonical {n : Node} (h : n.Canonical) : Reads n := by
  induction h with
  | text s => exact reads_text s
  | parent some named distinct inner ih =>
    intro opened tag events rest
    rw [Node.render, run_children named ih, Node.events]
    exact run_tagStart opened _ [] rest

end Scan

/-- The events of a canonical tree rendered within an element. -/
theorem events?_render {root : String} (named : isName root) {n : Node} (h : n.Canonical) :
    events? (utf8 ("<" ++ root ++ ">" ++ n.render ++ "</" ++ root ++ ">")) =
      some (Event.opening root :: n.events ++ [Event.closing root]) := by
  have whole := Scan.run_element named (Scan.reads_of_canonical h) [] [] []
  have unmarked : ∀ s, dropMark (utf8 ("<" ++ s)) = utf8 ("<" ++ s) := by
    intro s
    have sign : utf8 "<" = [ascii '<'] := rfl
    rw [utf8_append, sign]
    rfl
  rw [List.append_nil] at whole
  simp only [String.append_assoc] at whole ⊢
  rw [events?, unmarked, whole]
  simp [Scan.run, Scan.finish, Scan.endPiece]

end ServiceClient.Markup
