import ServiceClient.Proofs.Codec.Siblings
import ServiceClient.Proofs.Markup.Runs
import Mathlib.Data.List.Forall2

/-! Lists and the elements that they are read from. A list whose items take one element each keeps
all of them in order. Lists and maps take a run of elements at once, so that a list of them has at
most one item, however long the run is. -/

namespace ServiceClient.Codec
open ServiceClient.Markup ServiceClient.Schema ServiceClient.Wire

namespace Reading
variable {α : Type} {one : Reading α} {tag : String}

/-- What gathering leaves starts where its last look ahead has stopped. -/
theorem yields_gatherAll_nil (progress : Progresses tag one) {events left : List Event}
    {xs : List α} (stops : (skipBlank events).head? ≠ some (.opening tag))
    (yields : Yields (gatherAll tag one) events xs left) : xs = [] ∧ left = skipBlank events := by
  obtain ⟨next, rest, peeked, onwards⟩ := (yields_gatherAll_iff progress).mp yields
  obtain ⟨rfl, head⟩ := peekStart_eq_ok peeked
  rwa [if_neg fun opens => stops ((head tag).mp opens)] at onwards

theorem yields_gatherAll_cons (progress : Progresses tag one) {events left : List Event}
    {xs : List α} (opens : (skipBlank events).head? = some (.opening tag))
    (yields : Yields (gatherAll tag one) events xs left) :
    ∃ x mid xs', Yields one (skipBlank events) x mid ∧ Yields (gatherAll tag one) mid xs' left ∧
      xs = x :: xs' := by
  obtain ⟨next, rest, peeked, onwards⟩ := (yields_gatherAll_iff progress).mp yields
  obtain ⟨rfl, head⟩ := peekStart_eq_ok peeked
  rwa [if_pos ((head tag).mpr opens)] at onwards

/-- A reading that takes whole runs leaves nothing for a second turn. -/
theorem takesRun_gatherAll_of_takesRun (progress : Progresses tag one) (each : TakesRun tag one) :
    TakesRun tag (gatherAll tag one) := by
  intro events xs left yields
  have whole : events = events.takeWhile Event.isBlank ++ skipBlank events :=
    List.takeWhile_append_dropWhile.symm
  have front : IsRun tag (events.takeWhile Event.isBlank) := .blank isBlank_of_mem_takeWhile
  by_cases opens : (skipBlank events).head? = some (.opening tag)
  · obtain ⟨x, mid, xs', read, others, -⟩ := yields_gatherAll_cons progress opens yields
    -- The first item ends where the run does, so that the second look ahead stops.
    obtain ⟨used, took, run, ends⟩ := each read
    obtain ⟨-, rfl⟩ := yields_gatherAll_nil progress ends others
    have blank : IsRun tag (mid.takeWhile Event.isBlank) := .blank isBlank_of_mem_takeWhile
    refine ⟨events.takeWhile Event.isBlank ++ used ++ mid.takeWhile Event.isBlank, ?_,
      (front.append run).append blank, by rwa [skipBlank_skipBlank]⟩
    rw [List.append_assoc, skipBlank, List.takeWhile_append_dropWhile, List.append_assoc, ← took]
    exact whole
  · obtain ⟨-, rfl⟩ := yields_gatherAll_nil progress opens yields
    exact ⟨_, whole, front, by rwa [skipBlank_skipBlank]⟩

section Parts
variable {parts : List Part} {rest left : List Event} {xs : List α}
  (named : ∀ c ∈ childrenOf parts, c.name = tag)
  (stops : (skipBlank rest).head? ≠ some (.opening tag))
include named stops

/-- Items that take one element each are those of the children in order. -/
theorem forall₂_of_readsElement (progress : Progresses tag one) (reads : ReadsElement tag one)
    (yields : Yields (gatherAll tag one) (parts.flatMap Part.events ++ rest) xs left) :
    List.Forall₂ (fun c x => Yields one c.events x []) (childrenOf parts) xs ∧
      left = skipBlank rest := by
  induction parts generalizing xs with
  | nil =>
    obtain ⟨rfl, rfl⟩ := yields_gatherAll_nil progress stops yields
    exact ⟨.nil, rfl⟩
  | cons part parts ih =>
    rw [List.flatMap_cons, List.append_assoc] at yields
    cases part with
    | blank s white =>
      have blank : (Event.text s).isBlank := white
      have same : peekStart (.text s :: (parts.flatMap Part.events ++ rest)) =
          peekStart (parts.flatMap Part.events ++ rest) := by
        rw [peekStart, peekStart, skipBlank, List.dropWhile_cons_of_pos blank, skipBlank]
      have onwards := (yields_gatherAll_iff progress).mp yields
      rw [Part.events, List.singleton_append, same] at onwards
      exact ih named ((yields_gatherAll_iff progress).mpr onwards)
    | child c =>
      obtain ⟨rfl, others⟩ := List.forall_mem_cons.mp named
      obtain ⟨x, mid, xs', read, onwards, rfl⟩ := yields_gatherAll_cons progress rfl yields
      obtain ⟨rfl, alone⟩ := reads.yields_child.mp read
      obtain ⟨each, ends⟩ := ih others onwards
      exact ⟨.cons alone each, ends⟩

/-- An item that takes a whole run is the only one. -/
theorem length_of_takesRun (progress : Progresses tag one) (each : TakesRun tag one)
    (yields : Yields (gatherAll tag one) (parts.flatMap Part.events ++ rest) xs left) :
    xs.length = min 1 (childrenOf parts).length ∧ left = skipBlank rest := by
  obtain ⟨used, whole, run, ends⟩ := takesRun_gatherAll_of_takesRun progress each yields
  have same := run.unique (isRun_parts named) whole.symm ends stops
  have front := skipBlank_parts named rest
  cases children : childrenOf parts with
  | nil =>
    rw [children] at front
    obtain ⟨rfl, rfl⟩ := yields_gatherAll_nil progress (front ▸ stops) yields
    exact ⟨rfl, front⟩
  | cons c others =>
    rw [children] at front
    obtain ⟨x, mid, xs', read, onwards, rfl⟩ := yields_gatherAll_cons progress front yields
    obtain ⟨-, -, -, ends⟩ := each read
    obtain ⟨rfl, rfl⟩ := yields_gatherAll_nil progress ends onwards
    rw [skipBlank_skipBlank] at same
    exact ⟨by simp, same⟩

end Parts
end Reading

namespace Module
open Reading
variable {m : Module} {headers : Headers} {type element : String}

/-- A decoder that is no single one takes whole runs, however deep the nesting of lists. -/
theorem takesRun_readXml (several : m.isSingle type = false) (depth : Nat) (tag : String) :
    TakesRun tag (m.readXml headers depth type tag) := by
  induction depth generalizing type with
  | zero => exact fun _ _ _ yields => absurd yields not_yields_missing
  | succ depth ih =>
    cases body : m.decoderBody? type with
    | none =>
      rw [readXml, body]
      exact fun _ _ _ yields => absurd yields not_yields_missing
    | some b =>
      cases b with
      | scalar kind => simp [isSingle, body] at several
      | struct shape fields => simp [isSingle, body] at several
      | map key value keyWire valueWire => exact takesRun_readXml_map body _ tag
      | list element =>
        cases single : m.isSingle element with
        | true => exact takesRun_readXml_list body single _ tag
        | false =>
          rw [readXml, body]
          exact (takesRun_gatherAll_of_takesRun (progresses_readXml depth element tag)
            (ih single)).bind fun _ => stays_pure _

/-- What the decoder of `type` makes of elements `tag`, however many nested calls that takes. -/
def Decodes (m : Module) (headers : Headers) (type tag : String) (events : List Event) (v : Value)
    (left : List Event) : Prop :=
  ∃ depth, Yields (m.readXml headers depth type tag) events v left

theorem decodes_of_decodeXml {tag : String} {events left : List Event} {v : Value}
    (yields : Yields (m.decodeXml headers type tag) events v left) :
    m.Decodes headers type tag events v left := by
  rw [Yields, decodeXml_run] at yields
  exact ⟨_, yields⟩

theorem Decodes.unique {tag : String} {events left left' : List Event} {v v' : Value}
    (decodes : m.Decodes headers type tag events v left)
    (decodes' : m.Decodes headers type tag events v' left') : v = v' ∧ left = left' := by
  obtain ⟨depth, yields⟩ := decodes
  obtain ⟨depth', yields'⟩ := decodes'
  have first := refines_readXml (Nat.le_max_left depth depth') type tag yields
  have second := refines_readXml (Nat.le_max_right depth depth') type tag yields'
  rw [first] at second
  cases second
  exact ⟨rfl, rfl⟩

theorem decodes_list (body : m.decoderBody? type = some (.list element)) {tag : String}
    {events left : List Event} {v : Value} (decodes : m.Decodes headers type tag events v left) :
    ∃ depth items, v = .list items ∧
      Yields (gatherAll tag (m.readXml headers depth element tag)) events items left := by
  obtain ⟨_ | depth, yields⟩ := decodes
  · exact absurd yields not_yields_missing
  · rw [readXml, body] at yields
    obtain ⟨items, rest, read, done⟩ := yields_bind.mp yields
    obtain ⟨rfl, rfl⟩ := yields_pure.mp done
    exact ⟨depth, items, rfl, read⟩

/-- A run of elements becomes a list with one item for each of them, in order and read from it
alone. -/
def KeepsElements (m : Module) (type element : String) : Prop :=
  ∀ ⦃headers tag parts rest v left⦄, (∀ c ∈ childrenOf parts, c.name = tag) →
    (skipBlank rest).head? ≠ some (.opening tag) →
    m.Decodes headers type tag (parts.flatMap Part.events ++ rest) v left →
    ∃ items, v = .list items ∧ left = skipBlank rest ∧
      List.Forall₂ (fun c x => m.Decodes headers element tag c.events x []) (childrenOf parts) items

/-- A run of elements becomes a list with one item for all of them. -/
def MergesElements (m : Module) (type : String) : Prop :=
  ∀ ⦃headers tag parts rest v left⦄, (∀ c ∈ childrenOf parts, c.name = tag) →
    (skipBlank rest).head? ≠ some (.opening tag) →
    m.Decodes headers type tag (parts.flatMap Part.events ++ rest) v left →
    ∃ items, v = .list items ∧ left = skipBlank rest ∧
      items.length = min 1 (childrenOf parts).length

/-- Primitives and structures take one element each. -/
theorem keepsElements_of_single (body : m.decoderBody? type = some (.list element))
    (single : m.isSingle element) : m.KeepsElements type element := by
  intro headers tag parts rest v left named stops decodes
  obtain ⟨depth, items, rfl, yields⟩ := decodes_list body decodes
  have reads : ReadsElement tag (m.readXml headers depth element tag) :=
    ⟨takesElement_readXml single depth tag, detached_readXml single depth tag⟩
  obtain ⟨each, ends⟩ := forall₂_of_readsElement named stops
    (progresses_readXml depth element tag) reads yields
  exact ⟨items, rfl, ends, each.imp fun c x alone => ⟨depth, alone⟩⟩

/-- Lists and maps take the whole run, and leave nothing for a second item. -/
theorem mergesElements_of_collection (body : m.decoderBody? type = some (.list element))
    (several : m.isSingle element = false) : m.MergesElements type := by
  intro headers tag parts rest v left named stops decodes
  obtain ⟨depth, items, rfl, yields⟩ := decodes_list body decodes
  obtain ⟨length, ends⟩ := length_of_takesRun named stops (progresses_readXml depth element tag)
    (takesRun_readXml several depth tag) yields
  exact ⟨items, rfl, ends, length⟩

end Module
end ServiceClient.Codec
