import ServiceClient.Codec.FromXml
import Mathlib.Data.List.Basic

/-! Readings that succeed. Each way to put readings together yields a value exactly when its parts
do, one after the other on what is left of the events. -/

namespace ServiceClient.Markup
open ServiceClient.Wire

theorem skipBlank_opening (name : String) (events : List Event) :
    skipBlank (.opening name :: events) = .opening name :: events := rfl

theorem skipBlank_closing (name : String) (events : List Event) :
    skipBlank (.closing name :: events) = .closing name :: events := rfl

theorem startElement_eq_ok {name : String} {events left : List Event} :
    startElement name events = (.ok (), left) ↔ skipBlank events = .opening name :: left := by
  rw [startElement]
  split
  · rename_i found rest opens
    rw [opens]
    by_cases same : found = name <;> simp [same]
  · rename_i other
    simp only [Prod.mk.injEq, reduceCtorEq, false_and, false_iff]
    exact fun opens => other name left opens

theorem endElement_eq_ok {name : String} {events left : List Event} :
    endElement name events = (.ok (), left) ↔ skipBlank events = .closing name :: left := by
  rw [endElement]
  split
  · rename_i empty
    simp [empty]
  · rename_i found rest closes
    rw [closes]
    by_cases same : found = name <;> simp [same]
  · rename_i found rest other closes
    rw [closes]
    simp only [Prod.mk.injEq, reduceCtorEq, false_and, List.cons.injEq, false_iff, not_and]
    exact fun same _ => other name same

end ServiceClient.Markup

namespace ServiceClient.Codec.Reading
open ServiceClient.Markup ServiceClient.Schema ServiceClient.Wire

variable {α β : Type}

/-- The reading succeeds on `events`, with a value and what is left of them. -/
def Yields (x : Reading α) (events : List Event) (a : α) (left : List Event) : Prop :=
  x.run events = some (.ok a, left)

theorem yields_pure {a b : α} {events left : List Event} :
    Yields (pure a) events b left ↔ a = b ∧ events = left := by
  have ran : (pure a : Reading α).run events = some (.ok a, events) := rfl
  simp [Yields, ran]

/-- The second reading starts where the first one stopped, unless it failed. -/
theorem run_bind (x : Reading α) (f : α → Reading β) (events : List Event) :
    (x >>= f).run events = (x.run events).bind fun read =>
      match read.1 with
      | .ok a => (f a).run read.2
      | .error e => some (.error e, read.2) := by
  have whole : (x >>= f).run events =
      (x.run events).bind fun read => ExceptT.bindCont f read.1 read.2 := rfl
  rw [whole]
  congr 1
  funext read
  obtain ⟨_ | a, rest⟩ := read <;> rfl

theorem yields_bind {x : Reading α} {f : α → Reading β} {events left : List Event} {b : β} :
    Yields (x >>= f) events b left ↔
      ∃ a rest, Yields x events a rest ∧ Yields (f a) rest b left := by
  rw [Yields, run_bind, Option.bind_eq_some_iff]
  constructor
  · rintro ⟨⟨_ | a, rest⟩, first, second⟩
    · cases second
    · exact ⟨a, rest, first, second⟩
  · rintro ⟨a, rest, first, second⟩
    exact ⟨(.ok a, rest), first, second⟩

theorem yields_pull {f : List Event → Pulled α} {events left : List Event} {a : α} :
    Yields (pull f) events a left ↔ f events = (.ok a, left) := by
  simp [Yields, pull, ExceptT.run, ExceptT.mk]

theorem yields_remaining {events rest left : List Event} :
    Yields remaining events rest left ↔ events = rest ∧ events = left := by
  simp [Yields, remaining, ExceptT.run, ExceptT.mk]

theorem yields_ofOutcome {r : Outcome α} {events left : List Event} {a : α} :
    Yields (ofOutcome r) events a left ↔ r.run = some (.ok a) ∧ events = left := by
  simp [Yields, ofOutcome, ExceptT.run, ExceptT.mk, Option.map_eq_some_iff]

theorem not_yields_missing {events left : List Event} {a : α} : ¬Yields missing events a left := by
  simp [Yields, missing, ExceptT.run, ExceptT.mk]

theorem yields_within {tag : String} {inner : Reading α} {events left : List Event} {a : α} :
    Yields (within tag inner) events a left ↔ ∃ body rest,
      skipBlank events = .opening tag :: body ∧ Yields inner body a rest ∧
        skipBlank rest = .closing tag :: left := by
  simp only [within, yields_bind, yields_pull, yields_pure]
  constructor
  · rintro ⟨⟨⟩, body, opens, x, rest, reads, ⟨⟩, after, closes, rfl, rfl⟩
    exact ⟨body, rest, startElement_eq_ok.mp opens, reads, endElement_eq_ok.mp closes⟩
  · rintro ⟨body, rest, opens, reads, closes⟩
    exact ⟨(), body, startElement_eq_ok.mpr opens, a, rest, reads, (), left,
      endElement_eq_ok.mpr closes, rfl, rfl⟩

end ServiceClient.Codec.Reading
