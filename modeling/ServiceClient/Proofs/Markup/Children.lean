import ServiceClient.Proofs.Markup.Nesting

/-! Records: documents whose root holds child elements with blank text around them. What the
children hold is left open. -/

namespace ServiceClient.Markup

namespace IsElement
variable {tag tag' : String} {xs ys rest rest' : List Event}

theorem dropElements_eq (element : IsElement tag xs) (rest : List Event) :
    dropElements 1 (afterRoot (xs ++ rest)) = some rest := by
  obtain ⟨blank, body, rfl, blanks, nested⟩ := element
  have unopened : ∀ e ∈ blank, e.isOpening = false := by
    intro e mem
    have blank := blanks e mem
    cases e with
    | text | closing => rfl
    | opening => cases blank
  have inside : Balanced body := balanced_iff_nested.mpr nested
  calc dropElements 1 (afterRoot (blank ++ .opening tag :: body ++ [.closing tag] ++ rest))
      = dropElements 1 (afterRoot (blank ++ .opening tag :: (body ++ .closing tag :: rest))) := by
        simp
    _ = dropElements 1 (body ++ .closing tag :: rest) := by rw [afterRoot_append unopened]
    _ = dropElements 1 (.closing tag :: rest) := inside 0 _
    _ = some rest := rfl

/-- Where an element ends is told by itself. -/
theorem append_inj (element : IsElement tag xs) (element' : IsElement tag' ys)
    (same : xs ++ rest = ys ++ rest') : xs = ys ∧ rest = rest' := by
  have behind : some rest = some rest' := by
    rw [← element.dropElements_eq rest, same, element'.dropElements_eq rest']
  obtain rfl := Option.some.inj behind
  exact ⟨List.append_cancel_right same, rfl⟩

end IsElement

/-- An element within the root, with whatever it holds. -/
structure Child where
  name : String
  inner : List Event
  nested : Nested inner

namespace Child

def events (c : Child) : List Event :=
  .opening c.name :: c.inner ++ [.closing c.name]

theorem isElement (c : Child) : IsElement c.name c.events :=
  ⟨[], c.inner, rfl, nofun, c.nested⟩

theorem events_append (c : Child) (rest : List Event) :
    c.events ++ rest = .opening c.name :: (c.inner ++ .closing c.name :: rest) := by
  simp [events]

theorem skipElement_events (c : Child) (rest : List Event) :
    skipElement (c.events ++ rest) = (.ok (), rest) := by
  have dropped : dropElements 1 (c.inner ++ .closing c.name :: rest) = some rest := by
    have whole := c.isElement.dropElements_eq rest
    rwa [events_append] at whole
  have opens : skipBlank (.opening c.name :: (c.inner ++ .closing c.name :: rest)) =
    .opening c.name :: (c.inner ++ .closing c.name :: rest) := rfl
  rw [events_append, skipElement]
  simp only [opens, dropped]

end Child

/-- What the root holds. -/
inductive Part where
  | blank (s : String) (white : Text.blankText s)
  | child (c : Child)

namespace Part

def events : Part → List Event
  | blank s _ => [.text s]
  | child c => c.events

def child? : Part → Option Child
  | blank _ _ => none
  | child c => some c

end Part

/-- A document whose root is made of its children. -/
structure Record where
  before : List Event
  root : String
  parts : List Part
  after : List Event
  blank : ∀ e ∈ before, e.isBlank

namespace Record

def events (d : Record) : List Event :=
  d.before ++ .opening d.root :: (d.parts.flatMap Part.events ++ .closing d.root :: d.after)

def children (d : Record) : List Child :=
  d.parts.filterMap Part.child?

/-- The children of that name, in order. -/
def named (d : Record) (name : String) : List Child :=
  d.children.filter (·.name == name)

theorem skipBlank_events (d : Record) : skipBlank d.events =
    .opening d.root :: (d.parts.flatMap Part.events ++ .closing d.root :: d.after) := by
  rw [events, skipBlank, List.dropWhile_append_of_pos d.blank]
  rfl

end Record
end ServiceClient.Markup
