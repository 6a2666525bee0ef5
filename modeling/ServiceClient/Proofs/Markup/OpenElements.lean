import ServiceClient.Proofs.Markup.Root
import ServiceClient.Markup.Reader
import Mathlib.Data.List.Chain

/-! The elements that are open while a document is read. Each closing tag takes the innermost one
and has its name, so that the events of a document only lack the closing tags of the elements that
are open at its end; and no two texts stand side by side. -/

namespace ServiceClient.Markup

/-- Every element is closed, under its own name, behind what it holds. -/
inductive WellNested : List Event → Prop
  | nil : WellNested []
  | text (s : String) {xs : List Event} (rest : WellNested xs) : WellNested (.text s :: xs)
  | element (name : String) {xs ys : List Event} (inner : WellNested xs) (rest : WellNested ys) :
      WellNested (.opening name :: xs ++ .closing name :: ys)

theorem WellNested.append {xs ys : List Event} (first : WellNested xs) (second : WellNested ys) :
    WellNested (xs ++ ys) := by
  induction first with
  | nil => exact second
  | text s _ ih => exact .text s ih
  | element name inner _ _ ih =>
    rw [List.append_assoc]
    exact .element name inner ih

/-- The names of the elements that are open behind the events, innermost first; the events last
first. -/
inductive OpenAfter : List Event → List String → Prop
  | nil : OpenAfter [] []
  | text (s : String) {xs : List Event} {names : List String} (before : OpenAfter xs names) :
      OpenAfter (.text s :: xs) names
  | opening (name : String) {xs : List Event} {names : List String}
      (before : OpenAfter xs names) : OpenAfter (.opening name :: xs) (name :: names)
  | closing {name : String} {xs : List Event} {names : List String}
      (before : OpenAfter xs (name :: names)) : OpenAfter (.closing name :: xs) names

/-- The events open elements of these names, innermost first, and leave them open. -/
inductive LeavesOpen : List Event → List String → Prop
  | none {xs : List Event} (whole : WellNested xs) : LeavesOpen xs []
  | opened {xs ys : List Event} {names : List String} (outer : LeavesOpen xs names)
      (name : String) (inner : WellNested ys) :
      LeavesOpen (xs ++ .opening name :: ys) (name :: names)

namespace LeavesOpen
variable {xs ys : List Event} {names : List String} {name : String}

theorem append (h : LeavesOpen xs names) (more : WellNested ys) : LeavesOpen (xs ++ ys) names := by
  cases h with
  | none whole => exact .none (whole.append more)
  | opened outer name inner =>
    rw [List.append_assoc, List.cons_append]
    exact .opened outer name (inner.append more)

/-- The innermost element that is open, and what it holds so far. -/
theorem exists_innermost (h : LeavesOpen xs (name :: names)) :
    ∃ outer inner, xs = outer ++ .opening name :: inner ∧ WellNested inner ∧
      LeavesOpen outer names := by
  cases h with
  | opened outer _ inner => exact ⟨_, _, rfl, inner, outer⟩

theorem close (h : LeavesOpen xs (name :: names)) : LeavesOpen (xs ++ [.closing name]) names := by
  obtain ⟨outer, inner, rfl, whole, before⟩ := h.exists_innermost
  have element : WellNested (.opening name :: inner ++ [.closing name]) := .element name whole .nil
  rw [List.append_assoc, List.cons_append]
  exact before.append element

/-- With the closing tags of what is open, innermost first, the events are nested. -/
theorem wellNested (h : LeavesOpen xs names) (more : WellNested ys) :
    WellNested (xs ++ ys ++ names.map .closing) := by
  induction h generalizing ys with
  | none whole =>
    rw [List.map_nil, List.append_nil]
    exact whole.append more
  | @opened xs inside names _ name inner ih =>
    have element : WellNested (.opening name :: (inside ++ ys) ++ [.closing name]) :=
      .element name (inner.append more) .nil
    have whole := ih element
    simpa using whole

end LeavesOpen

namespace OpenAfter
variable {xs ys : List Event} {names : List String}

theorem leavesOpen (h : OpenAfter xs names) : LeavesOpen xs.reverse names := by
  induction h with
  | nil => exact .none .nil
  | text s _ ih =>
    rw [List.reverse_cons]
    exact ih.append (.text s .nil)
  | opening name _ ih =>
    rw [List.reverse_cons]
    exact .opened ih name .nil
  | closing _ ih =>
    rw [List.reverse_cons]
    exact ih.close

theorem addText (h : OpenAfter xs names) (s : String) : OpenAfter (addText s xs) names := by
  cases h with
  | nil => exact .text s .nil
  | text t before => exact .text (t ++ s) before
  | opening name before => exact .text s (.opening name before)
  | closing before => exact .text s (.closing before)

theorem of_append (h : OpenAfter (ys ++ xs) names) : ∃ earlier, OpenAfter xs earlier := by
  induction ys generalizing names with
  | nil => exact ⟨names, h⟩
  | cons y ys ih =>
    cases h with
    | text _ before => exact ih before
    | opening _ before => exact ih before
    | closing before => exact ih before

/-- A closing tag ends the innermost element that is open in front of it. -/
theorem exists_opening {before after : List Event} {name : String}
    (h : OpenAfter (before ++ .closing name :: after).reverse names) :
    ∃ outer inner, before = outer ++ .opening name :: inner ∧ WellNested inner := by
  rw [List.reverse_append, List.reverse_cons, List.append_assoc] at h
  obtain ⟨earlier, upto⟩ := of_append h
  cases upto with
  | closing upto =>
    have left : LeavesOpen before.reverse.reverse (name :: earlier) := upto.leavesOpen
    rw [List.reverse_reverse] at left
    obtain ⟨outer, inner, split, whole, -⟩ := left.exists_innermost
    exact ⟨outer, inner, split, whole⟩

end OpenAfter

def Event.isText : Event → Bool
  | .text _ => true
  | _ => false

/-- No two texts stand side by side. -/
def Coalesced (events : List Event) : Prop :=
  events.IsChain fun e e' => ¬(e.isText ∧ e'.isText)

namespace Coalesced
variable {events : List Event}

theorem cons {e : Event} (h : Coalesced events) (markup : e.isText = false) :
    Coalesced (e :: events) := by
  refine List.isChain_cons.mpr ⟨fun next _ => ?_, h⟩
  simp [markup]

theorem addText (h : Coalesced events) (s : String) : Coalesced (addText s events) := by
  cases events with
  | nil => exact .singleton _
  | cons e rest =>
    cases e with
    | text t =>
      obtain ⟨apart, rest⟩ := List.isChain_cons.mp h
      exact List.isChain_cons.mpr ⟨apart, rest⟩
    | opening name => exact List.isChain_cons.mpr ⟨by simp [Event.isText], h⟩
    | closing name => exact List.isChain_cons.mpr ⟨by simp [Event.isText], h⟩

theorem reverse (h : Coalesced events) : Coalesced events.reverse := by
  refine List.isChain_reverse.mpr (h.imp fun e e' apart => ?_)
  rwa [and_comm]

theorem not_adjacent (h : Coalesced events) {before after : List Event} {s t : String} :
    events ≠ before ++ .text s :: .text t :: after := by
  rintro rfl
  have later := h.right_of_append
  exact (List.isChain_cons_cons.mp later).1 ⟨rfl, rfl⟩

end Coalesced

namespace Scan

/-- The open elements of the scan are those that its events have left open, under their local
names. -/
structure Follows (s : Scan) : Prop where
  elements : ∃ names, OpenAfter s.events names ∧
    s.opened.map (fun full => Text.Utf8.decode? (localPart full)) = names.map some
  coalesced : Coalesced s.events

section Moves
variable {s s' : Scan} {b : UInt8} {bytes : List UInt8}

theorem Follows.addText (h : s.Follows) (t : String) (place : Place) :
    Follows ⟨s.opened, addText t s.events, place⟩ := by
  obtain ⟨⟨names, after, named⟩, coalesced⟩ := h
  exact ⟨⟨names, after.addText t, named⟩, coalesced.addText t⟩

theorem Follows.move (h : s.Follows) (moved : s.Move b s') : s'.Follows := by
  obtain ⟨⟨names, after, known⟩, coalesced⟩ := h
  cases moved with
  | stay | tag => exact ⟨⟨names, after, known⟩, coalesced⟩
  | text _ _ _ t => exact Follows.addText ⟨⟨names, after, known⟩, coalesced⟩ t _
  | markup flushed =>
    rcases flushed with rfl | ⟨t, rfl⟩
    · exact ⟨⟨names, after, known⟩, coalesced⟩
    · exact Follows.addText ⟨⟨names, after, known⟩, coalesced⟩ t _
  | opens _ full name named =>
    refine ⟨⟨name :: names, .opening name after, ?_⟩, coalesced.cons rfl⟩
    rw [List.map_cons, named, known, List.map_cons]
  | whole _ name =>
    exact ⟨⟨names, .closing (.opening name after), known⟩, (coalesced.cons rfl).cons rfl⟩
  | @closes full opened inner name named =>
    rw [inner, List.map_cons, named] at known
    cases names with
    | nil => cases known
    | cons outer names =>
      obtain ⟨same, rest⟩ := List.cons.inj known
      obtain rfl : name = outer := Option.some.inj same
      exact ⟨⟨names, .closing after, rest⟩, coalesced.cons rfl⟩

theorem Follows.run (h : s.Follows) (ran : s.run bytes = some s') : s'.Follows := by
  induction bytes generalizing s with
  | nil =>
    obtain rfl := Option.some.inj ran
    exact h
  | cons b bytes ih =>
    rw [run_cons] at ran
    obtain ⟨next, stepped, ran⟩ := Option.bind_eq_some_iff.mp ran
    exact ih (h.move (step_move stepped)) ran

end Moves

theorem Follows.finish {s : Scan} (h : s.Follows) {events : List Event}
    (finished : s.finish = some events) :
    (∃ names, OpenAfter events.reverse names) ∧ Coalesced events := by
  obtain ⟨-, last, rfl, rfl | ⟨t, rfl⟩⟩ := finish_eq_some finished
  · obtain ⟨⟨names, after, -⟩, coalesced⟩ := h
    rw [List.reverse_reverse]
    exact ⟨⟨names, after⟩, coalesced.reverse⟩
  · obtain ⟨⟨names, after, -⟩, coalesced⟩ := h.addText t s.place
    rw [List.reverse_reverse]
    exact ⟨⟨names, after⟩, coalesced.reverse⟩

end Scan

theorem follows_of_events? {bytes : List UInt8} {events : List Event}
    (scanned : events? bytes = some events) :
    (∃ names, OpenAfter events.reverse names) ∧ Coalesced events := by
  have start : Scan.Follows {} := ⟨⟨[], .nil, rfl⟩, .nil⟩
  obtain ⟨last, ran, finished⟩ := Option.bind_eq_some_iff.mp scanned
  exact (start.run ran).finish finished

/-- The events of a document lack nothing but closing tags to be nested. Each closing tag in it
ends the innermost element that is open in front of it, under its name, and no two texts stand side
by side. -/
theorem ofBytes_nested {bytes : List UInt8} {events : List Event}
    (read : ofBytes bytes = .ok events) :
    (∃ names : List String, WellNested (events ++ names.map .closing)) ∧
      (∀ before name after, events = before ++ .closing name :: after →
        ∃ outer inner, before = outer ++ .opening name :: inner ∧ WellNested inner) ∧
      ∀ before s t after, events ≠ before ++ .text s :: .text t :: after := by
  have scanned : events? bytes = some events := by
    unfold ofBytes at read
    split at read
    · rename_i scanned
      rwa [Except.ok.inj read] at scanned
    · cases read
  obtain ⟨⟨names, after⟩, coalesced⟩ := follows_of_events? scanned
  refine ⟨⟨names, ?_⟩, ?_, fun _ _ _ _ => coalesced.not_adjacent⟩
  · have whole := after.leavesOpen.wellNested .nil
    rwa [List.reverse_reverse, List.append_nil] at whole
  · rintro before name rest rfl
    exact after.exists_opening

/-- A document with a comment between texts, an empty element and two elements left open. -/
def openBytes : List UInt8 :=
  asciiBytes "<a>1<!-- - -->2<b:c/><d>"

def openEvents : List Event :=
  [.opening "a", .text "12", .opening "c", .closing "c", .opening "d"]

theorem openBytes_nested : ofBytes openBytes = .ok openEvents ∧
    (∃ names : List String, WellNested (openEvents ++ names.map .closing)) ∧
      ∃ outer inner, [.opening "a", .text "12", .opening "c"] = outer ++ .opening "c" :: inner ∧
        WellNested inner :=
  have read : ofBytes openBytes = .ok openEvents := by decide +kernel
  have ⟨whole, closed, _⟩ := ofBytes_nested read
  ⟨read, whole, closed _ "c" [.opening "d"] rfl⟩

end ServiceClient.Markup
