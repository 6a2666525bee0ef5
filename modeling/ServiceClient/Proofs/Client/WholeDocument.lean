import ServiceClient.Proofs.Client.CutResponse
import ServiceClient.Proofs.Codec.Bounds
import ServiceClient.Proofs.Codec.Locality
import ServiceClient.Proofs.Markup.Children

/-! What is decoded of a response. The output of an operation comes from the root of the document,
and whatever follows the root is neither read nor refused. -/

namespace ServiceClient.Markup

/-- One element that has an end, with nothing but blank text around it. -/
def IsWhole (events : List Event) : Prop :=
  ∃ tag root after, events = root ++ after ∧ IsElement tag root ∧ ∀ e ∈ after, e.isBlank

theorem isWhole_append_iff {tag : String} {root after : List Event} (element : IsElement tag root) :
    IsWhole (root ++ after) ↔ ∀ e ∈ after, e.isBlank := by
  constructor
  · rintro ⟨_, _, _, same, element', blank⟩
    obtain ⟨-, rfl⟩ := element.append_inj element' same
    exact blank
  · exact fun blank => ⟨tag, root, after, rfl, element, blank⟩

end ServiceClient.Markup

namespace ServiceClient.Client
open ServiceClient.Codec ServiceClient.Markup ServiceClient.Schema ServiceClient.Wire Reading

/-- The document begins with its root, behind blank text at most, and the root alone is decoded to
`v`. What follows it is `after`. -/
def RootDecodes (m : Module) (headers : Headers) (type : String) (events : List Event)
    (v : Codec.Value) (after : List Event) : Prop :=
  ∃ root, events = root ++ after ∧ IsElement (rootName events) root ∧
    Yields (m.decodeXml headers type (rootName events)) root v []

theorem RootDecodes.isWhole_iff {m : Module} {headers : Headers} {type : String}
    {events after : List Event} {v : Codec.Value}
    (root : RootDecodes m headers type events v after) :
    IsWhole events ↔ ∀ e ∈ after, e.isBlank := by
  obtain ⟨_, split, element, -⟩ := root
  rw [split]
  exact isWhole_append_iff element

section Outputs
variable {m : Module} {output : Output} {r : Response}

/-- A document with elements is decoded as its root is. -/
theorem decodeOutput_eq_ok_iff (xml : m.protocol = .restXml)
    (ready : m.ready (m.shapes.length + 1) output.type) (single : m.isSingle output.type)
    {events : List Event} (scanned : events? r.body = some events)
    (opens : events.any Event.isOpening) {v : Codec.Value} :
    (decodeOutput m output r).run = some (.ok v) ↔
      ∃ after, RootDecodes m r.headers output.type events v after := by
  have decoder : ∀ used left,
      Yields (m.decodeXml r.headers output.type (rootName events)) used v left ↔
        Yields (m.readXml r.headers (m.shapes.length + 1) output.type (rootName events))
          used v left := by
    intro used left
    rw [Yields, Yields, Module.decodeXml_run_eq ready (Nat.le_refl _)]
  have detached : Detached
      (m.readXml r.headers (m.shapes.length + 1) output.type (rootName events)) :=
    Module.detached_readXml single _ _
  rw [decodeOutput_eq xml scanned opens, Option.map_eq_some_iff]
  constructor
  · rintro ⟨⟨_, after⟩, yields, rfl⟩
    have yields := (decoder _ _).mp yields
    obtain ⟨root, split, element⟩ := Module.takesElement_readXml single _ _ yields
    refine ⟨after, root, split, element, (decoder _ _).mpr ?_⟩
    have alone := @detached root after v (by rwa [← split]) []
    rwa [List.append_nil] at alone
  · rintro ⟨after, root, split, -, yields⟩
    have yields := (decoder _ _).mp yields
    rw [← List.append_nil root] at yields
    refine ⟨(.ok v, after), (decoder _ _).mpr ?_, rfl⟩
    exact split ▸ detached yields after

end Outputs

namespace Widgets

/-- A response with elements is decoded exactly as its root is, and any other response that is not
decoded is an error. So what is decoded is a whole document if and only if nothing but blank text
follows the root. -/
theorem output_decoded_from_root {op : Method} (listed : op ∈ plan.client.methods)
    {output : Output} (returns : op.output = some output) (r : Response) :
    (∃ result, (decodeOutput plan output r).run = some result) ∧
    (events? r.body = none → (decodeOutput plan output r).run = some (.error .malformedXml)) ∧
    ∀ events, events? r.body = some events → events.any Event.isOpening →
      (∀ v, (decodeOutput plan output r).run = some (.ok v) ↔
        ∃ after, RootDecodes plan r.headers output.type events v after) ∧
      ∀ v after, RootDecodes plan r.headers output.type events v after →
        (IsWhole events ↔ ∀ e ∈ after, e.isBlank) := by
  have checked := List.all_eq_true.mp outputs_ready op listed
  rw [returns, Option.all_some, Bool.and_eq_true] at checked
  obtain ⟨struct, ready⟩ := checked
  obtain ⟨shape, fields, body⟩ := Module.exists_struct struct
  have single : plan.isSingle output.type := by
    rw [Module.isSingle, body]
  refine ⟨Option.ne_none_iff_exists'.mp (decodeOutput_ne_none rfl ready), fun broken => ?_,
    fun events scanned opens => ⟨fun v => ?_, fun v after root => root.isWhole_iff⟩⟩
  · have failed : ofResponse output.shape r.body = .error .malformedXml := by
      rw [ofResponse, ofBytes, broken]
      rfl
    rw [decodeOutput]
    simp only [failed]
    rfl
  · exact decodeOutput_eq_ok_iff rfl ready single scanned opens

/-- A widget within blank text and a comment. -/
def spacedSample : Response where
  status := 200
  body := asciiBytes " <!-- a --><Widget><Id>a</Id></Widget> "

def spacedEvents : List Event :=
  [.text " ", .opening "Widget", .opening "Id", .text "a", .closing "Id", .closing "Widget",
    .text " "]

theorem spacedSample_whole : events? spacedSample.body = some spacedEvents ∧
    spacedEvents.any Event.isOpening ∧ ∃ v after,
      (decodeOutput plan ⟨"Widget", "Widget"⟩ spacedSample).run = some (.ok v) ∧
      RootDecodes plan [] "Widget" spacedEvents v after ∧ IsWhole spacedEvents := by
  have scanned : events? spacedSample.body = some spacedEvents := by decide +kernel
  have listed : plan.client.methods[1] ∈ plan.client.methods := List.getElem_mem (by decide)
  obtain ⟨⟨result, ran⟩, -, decided⟩ := output_decoded_from_root listed rfl spacedSample
  obtain ⟨decoded, whole⟩ := decided spacedEvents scanned rfl
  have decodes : ((decodeOutput plan ⟨"Widget", "Widget"⟩ spacedSample).run.bind
      Except.toOption).isSome := by
    decide +kernel
  cases result with
  | error e => simp [ran, Except.toOption] at decodes
  | ok v =>
    obtain ⟨after, root⟩ := (decoded v).mp ran
    refine ⟨scanned, rfl, v, after, ran, root, ?_⟩
    exact ⟨"Widget", spacedEvents.dropLast, [.text " "], rfl,
      ⟨[.text " "], [.opening "Id", .text "a", .closing "Id"], rfl, by decide,
        balanced_iff_nested.mp ((Balanced.text "a").element "Id" "Id")⟩, by decide⟩

/-- A widget with another root behind it. -/
def doubledSample : Response where
  status := 200
  body := asciiBytes "<Widget><Id>a</Id></Widget><Extra/>"

def doubledEvents : List Event :=
  [.opening "Widget", .opening "Id", .text "a", .closing "Id", .closing "Widget", .opening "Extra",
    .closing "Extra"]

theorem second_root_never_read : ∃ op output v, op ∈ plan.client.methods ∧ op.output = some output ∧
    events? doubledSample.body = some doubledEvents ∧ doubledEvents.any Event.isOpening ∧
    (decodeOutput plan output doubledSample).run = some (.ok v) ∧ ¬IsWhole doubledEvents := by
  have listed : plan.client.methods[1] ∈ plan.client.methods := List.getElem_mem (by decide)
  have scanned : events? doubledSample.body = some doubledEvents := by decide +kernel
  have decodes : ((decodeOutput plan ⟨"Widget", "Widget"⟩ doubledSample).run.bind
      Except.toOption).isSome := by
    decide +kernel
  obtain ⟨v, decoded⟩ := Option.isSome_iff_exists.mp decodes
  obtain ⟨result, ran, ok⟩ := Option.bind_eq_some_iff.mp decoded
  cases result with
  | error e => cases ok
  | ok w =>
    refine ⟨_, _, w, listed, rfl, scanned, rfl, ran, ?_⟩
    have root : IsElement "Widget" (doubledEvents.take 5) :=
      ⟨[], [.opening "Id", .text "a", .closing "Id"], rfl, by simp,
        balanced_iff_nested.mp ((Balanced.text "a").element "Id" "Id")⟩
    have split : doubledEvents = doubledEvents.take 5 ++ [.opening "Extra", .closing "Extra"] := rfl
    rw [split, isWhole_append_iff root]
    decide

end Widgets
end ServiceClient.Client
