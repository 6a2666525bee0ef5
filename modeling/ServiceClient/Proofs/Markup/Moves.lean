import ServiceClient.Markup.Scan
import Mathlib.Data.List.Basic

/-! What a single byte can do to a scan. Every state of the scan is taken up once here; what holds
along a scan follows from the moves. -/

namespace ServiceClient.Markup

/-- Inside an opening tag. -/
def Place.isTag : Place → Bool
  | .opening _ _ => true
  | _ => false

namespace Scan

/-- The byte belongs to an opening tag, behind its `<`. -/
def InTag (s : Scan) (b : UInt8) : Prop :=
  s.place.isTag ∨ (s.place = .markup ∧ b ∉ [ascii '/', ascii '!', ascii '?'])

/-- What a byte can do to the open elements and the events. -/
inductive Move (s : Scan) (b : UInt8) : Scan → Prop
  | stay {place : Place} (before : ¬s.InTag b) (after : place.isTag = false)
      (unmarked : place ≠ .markup) : Move s b ⟨s.opened, s.events, place⟩
  | text {place : Place} (before : ¬s.InTag b) (after : place.isTag = false)
      (unmarked : place ≠ .markup) (t : String) : Move s b ⟨s.opened, addText t s.events, place⟩
  | markup {events : List Event} (flushed : events = s.events ∨ ∃ t, events = addText t s.events)
      {piece : List UInt8} (data : s.place = .text piece) (sign : b = ascii '<') :
      Move s b ⟨s.opened, events, .markup⟩
  | tag (inside : s.InTag b) (quote : Option UInt8) (content : List UInt8) :
      Move s b ⟨s.opened, s.events, .opening quote content⟩
  | opens (inside : s.InTag b) (full : List UInt8) (name : String)
      (named : Text.Utf8.decode? (localPart full) = some name) :
      Move s b ⟨full :: s.opened, .opening name :: s.events, .text []⟩
  | whole (inside : s.InTag b) (name : String) :
      Move s b ⟨s.opened, .closing name :: .opening name :: s.events, .text []⟩
  | closes {full : List UInt8} {opened : List (List UInt8)} (inner : s.opened = full :: opened)
      (name : String) (named : Text.Utf8.decode? (localPart full) = some name) :
      Move s b ⟨opened, .closing name :: s.events, .text []⟩

section Step
variable {s s' : Scan} {b : UInt8}

theorem move_goto {place : Place} (moved : s.goto place = some s') (before : ¬s.InTag b)
    (after : place.isTag = false) (unmarked : place ≠ .markup) : s.Move b s' := by
  obtain rfl := Option.some.inj moved
  exact .stay before after unmarked

theorem endPiece_eq_some {piece : List UInt8} (ended : s.endPiece piece = some s') :
    ∃ events, s' = { s with events } ∧ (events = s.events ∨ ∃ t, events = addText t s.events) := by
  unfold endPiece at ended
  split at ended
  · obtain rfl := Option.some.inj ended
    exact ⟨s.events, rfl, .inl rfl⟩
  · obtain ⟨t, -, rfl⟩ := Option.map_eq_some_iff.mp ended
    exact ⟨_, rfl, .inr ⟨t, rfl⟩⟩

theorem move_endReference {name : List UInt8} (ended : s.endReference name = some s')
    (before : ¬s.InTag b) : s.Move b s' := by
  obtain ⟨written, -, referred⟩ := Option.bind_eq_some_iff.mp ended
  obtain ⟨c, -, rest⟩ := Option.bind_eq_some_iff.mp referred
  obtain rfl := Option.some.inj rest
  exact .text before rfl (by simp) _

theorem move_endData {content : List UInt8} (ended : s.endData content = some s')
    (before : ¬s.InTag b) : s.Move b s' := by
  obtain ⟨t, -, rest⟩ := Option.bind_eq_some_iff.mp ended
  obtain rfl := Option.some.inj rest
  exact .text before rfl (by simp) t

theorem move_endOpening {content : List UInt8} (ended : s.endOpening content = some s')
    (inside : s.InTag b) : s.Move b s' := by
  unfold endOpening at ended
  split at ended
  · obtain ⟨name, -, rest⟩ := Option.bind_eq_some_iff.mp ended
    obtain rfl := Option.some.inj rest
    exact .whole inside name
  · obtain ⟨name, named, rest⟩ := Option.bind_eq_some_iff.mp ended
    obtain rfl := Option.some.inj rest
    exact .opens inside _ name named

theorem move_endClosing {content : List UInt8} (ended : s.endClosing content = some s') :
    s.Move b s' := by
  unfold endClosing at ended
  split at ended
  · cases ended
  · rename_i full opened inner
    split at ended
    · obtain ⟨name, named, rest⟩ := Option.bind_eq_some_iff.mp ended
      obtain rfl := Option.some.inj rest
      exact .closes inner name named
    · cases ended

theorem not_inTag (untagged : s.place.isTag = false) (unmarked : s.place ≠ .markup) :
    ¬s.InTag b := by
  simp [InTag, untagged, unmarked]

theorem step_move (stepped : s.step b = some s') : s.Move b s' := by
  obtain ⟨opened, events, place⟩ := s
  cases place with
  | text piece =>
    simp only [step] at stepped
    split at stepped
    · rename_i sign
      obtain ⟨t, ended, moved⟩ := Option.bind_eq_some_iff.mp stepped
      obtain ⟨events', rfl, flushed⟩ := endPiece_eq_some ended
      obtain rfl := Option.some.inj moved
      exact .markup flushed rfl sign
    split at stepped
    · obtain ⟨t, ended, moved⟩ := Option.bind_eq_some_iff.mp stepped
      obtain ⟨events', rfl, rfl | ⟨t, rfl⟩⟩ := endPiece_eq_some ended
      · exact move_goto moved (not_inTag rfl nofun) rfl nofun
      · obtain rfl := Option.some.inj moved
        exact .text (by simp [InTag, Place.isTag]) rfl (by simp) t
    · exact move_goto stepped (not_inTag rfl nofun) rfl nofun
  | reference name =>
    simp only [step] at stepped
    split at stepped
    · exact move_endReference stepped (not_inTag rfl nofun)
    split at stepped
    · cases stepped
    · exact move_goto stepped (not_inTag rfl nofun) rfl nofun
  | markup =>
    simp only [step] at stepped
    split at stepped
    · rename_i slash
      exact move_goto stepped (by simp [InTag, Place.isTag, slash]) rfl nofun
    split at stepped
    · rename_i bang
      exact move_goto stepped (by simp [InTag, Place.isTag, bang]) rfl nofun
    split at stepped
    · rename_i ask
      exact move_goto stepped (by simp [InTag, Place.isTag, ask]) rfl nofun
    rename_i slash bang ask
    have inside : InTag ⟨opened, events, .markup⟩ b := .inr ⟨rfl, by simp [slash, bang, ask]⟩
    split at stepped
    · exact move_endOpening stepped inside
    · obtain rfl := Option.some.inj stepped
      exact .tag inside _ _
  | opening quote content =>
    have inside : InTag ⟨opened, events, .opening quote content⟩ b := .inl rfl
    cases quote with
    | none =>
      simp only [step] at stepped
      split at stepped
      · exact move_endOpening stepped inside
      · obtain rfl := Option.some.inj stepped
        exact .tag inside _ _
    | some quote =>
      obtain rfl := Option.some.inj stepped
      exact .tag inside _ _
  | closing content =>
    simp only [step] at stepped
    split at stepped
    · exact move_endClosing stepped
    · exact move_goto stepped (not_inTag rfl nofun) rfl nofun
  | data content =>
    simp only [step] at stepped
    split at stepped
    · split at stepped
      · exact move_endData stepped (not_inTag rfl nofun)
      · exact move_goto stepped (not_inTag rfl nofun) rfl nofun
    · exact move_goto stepped (not_inTag rfl nofun) rfl nofun
  | dataStart missing | typeStart missing =>
    simp only [step] at stepped
    split at stepped
    · cases stepped
    all_goals
      split at stepped
      · exact move_goto stepped (not_inTag rfl nofun) rfl nofun
      · cases stepped
  | declaration | commentStart | comment | type | instructionStart | instruction =>
    simp only [step] at stepped
    repeat' split at stepped
    all_goals first
      | exact move_goto stepped (not_inTag rfl nofun) rfl nofun
      | cases stepped

end Step
end Scan
end ServiceClient.Markup
