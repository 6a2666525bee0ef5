import ServiceClient.Client.Widgets
import ServiceClient.Proofs.Codec.ChildOrder

/-! The decoders of the widget store, run on any events from any position on. -/

namespace ServiceClient.Codec.Module

theorem mem_of_decoder? {m : Module} {type : String} {decoder : Decoder}
    (emitted : m.decoder? type = some decoder) :
    decoder.type = type ∧ ∃ s ∈ m.shapes, s.decoder = some decoder := by
  obtain ⟨s, mem, found⟩ := List.exists_of_findSome?_eq_some emitted
  obtain ⟨own, same⟩ := Option.filter_eq_some_iff.mp found
  exact ⟨eq_of_beq same, s, mem, own⟩

/-- The names of the parts of the body that the decoder of a structure knows. -/
def bodyWires (m : Module) (type : String) : List String :=
  match m.decoderBody? type with
  | some (.struct _ fields) => Codec.bodyWires fields
  | _ => []

end ServiceClient.Codec.Module

namespace ServiceClient.Client.Widgets
open ServiceClient.Codec ServiceClient.Markup ServiceClient.Schema ServiceClient.Wire

theorem decoders_ready : plan.shapes.all (fun s => s.decoder.all fun decoder =>
    plan.ready (plan.shapes.length + 1) decoder.type && plan.isFlat decoder.body) := by
  rfl

/-- Decoding ends on any events, and what is left of them are the last of them. A decoder that
succeeds has taken one element, or, for lists and maps, all that follow each other. -/
theorem decoders_take_their_elements {type : String} {decoder : Decoder}
    (emitted : plan.decoder? type = some decoder) (headers : Headers) (tag : String)
    (events : List Event) :
    ∃ result used left, (plan.decodeXml headers type tag).run events = some (result, left) ∧
      events = used ++ left ∧ ∀ v, result = .ok v → decoder.body.Takes tag used left := by
  obtain ⟨rfl, s, mem, own⟩ := Module.mem_of_decoder? emitted
  have checked := List.all_eq_true.mp decoders_ready s mem
  rw [own, Option.all_some, Bool.and_eq_true] at checked
  have body : plan.decoderBody? decoder.type = some decoder.body := by
    rw [Module.decoderBody?, emitted]
    rfl
  exact Module.decodeXml_exact body checked.2 checked.1 headers tag events

/-- Two tags of a widget, and what follows them. -/
def tagEvents : List Event :=
  [.text " ", .opening "Tag", .text "a", .closing "Tag", .opening "Tag", .closing "Tag", .text " ",
    .closing "Widget"]

theorem tagEvents_taken : ∃ used, tagEvents = used ++ [.closing "Widget"] ∧ IsRun "Tag" used ∧
    (skipBlank [.closing "Widget"]).head? ≠ some (.opening "Tag") := by
  have emitted : plan.decoder? "TagList" = some ⟨"TagList", .list "String"⟩ := rfl
  obtain ⟨result, used, left, ran, split, takes⟩ :=
    decoders_take_their_elements emitted [] "Tag" tagEvents
  have decodes : ((plan.decodeXml [] "TagList" "Tag").run tagEvents).map
      (fun read => (read.1.isOk, read.2)) = some (true, [.closing "Widget"]) := by
    rfl
  rw [ran] at decodes
  cases result with
  | error e => cases decodes
  | ok v =>
    obtain rfl : left = [.closing "Widget"] := by simpa [Except.isOk, Except.toBool] using decodes
    exact ⟨used, split, takes v rfl⟩

example : plan.bodyWires "Widget" =
    ["Id", "Count", "Enabled", "Tag", "Attributes", "Type", "Note", "Created"] := by
  decide +kernel

example : plan.bodyWires "ListWidgetsOutput" = ["Widget", "Prefixes", "NextToken"] := by
  decide +kernel

theorem structures_separable : plan.shapes.all (fun s => s.decoder.all fun decoder =>
    match decoder.body with
    | .struct _ fields => fields.all plan.isSeparable && decide (bodyWires fields).Nodup
    | _ => true) := by
  rfl

/-- Structures are decoded by the children of each name in their order. How these are mixed with
each other and with elements that the structure does not know, and the name of the root, make no
difference. -/
theorem structures_ignore_interleaving {type : String} (struct : plan.isStruct type)
    (headers : Headers) {d d' : Record}
    (same : ∀ wire ∈ plan.bodyWires type, d.named wire = d'.named wire) (v : Codec.Value) :
    (∃ left, Reading.Yields (plan.decodeXml headers type d.root) d.events v left) ↔
      ∃ left, Reading.Yields (plan.decodeXml headers type d'.root) d'.events v left := by
  obtain ⟨shape, fields, body⟩ := Module.exists_struct struct
  obtain ⟨decoder, emitted, whole⟩ := Option.map_eq_some_iff.mp body
  obtain ⟨rfl, s, mem, own⟩ := Module.mem_of_decoder? emitted
  have ready := List.all_eq_true.mp decoders_ready s mem
  have separable := List.all_eq_true.mp structures_separable s mem
  simp only [own, Option.all_some, Bool.and_eq_true, whole, List.all_eq_true,
    decide_eq_true_eq] at ready separable
  rw [Module.bodyWires, body] at same
  exact Module.yields_decodeXml_congr body ready.1 separable.1 separable.2 same v

/-- An element that holds text. -/
def textChild (name s : String) : Child where
  name := name
  inner := [.text s]
  nested := balanced_iff_nested.mp (.text s)

/-- A widget with its tags in one place. -/
def groupedWidget : Record where
  before := []
  root := "Widget"
  parts := [.child (textChild "Id" "a"), .child (textChild "Tag" "x"), .child (textChild "Tag" "y"),
    .child (textChild "Count" "1")]
  after := []
  blank := nofun

/-- The same widget under another root, with an element between the tags that hides a third one. -/
def scatteredWidget : Record where
  before := [.text " "]
  root := "w"
  parts := [.child (textChild "Tag" "x"), .blank " " rfl,
    .child
      { name := "Extra",
        inner := [.opening "Tag", .text "z", .closing "Tag"],
        nested := balanced_iff_nested.mp ((Balanced.text "z").element "Tag" "Tag") },
    .child (textChild "Count" "1"), .child (textChild "Tag" "y"), .child (textChild "Id" "a")]
  after := [.text " "]
  blank := by decide +kernel

theorem scatteredWidget_decodes : ∃ v : Codec.Value,
    (∃ left, Reading.Yields (plan.decodeXml [] "Widget" "Widget") groupedWidget.events v left) ∧
      ∃ left, Reading.Yields (plan.decodeXml [] "Widget" "w") scatteredWidget.events v left := by
  have struct : plan.isStruct "Widget" := rfl
  have wires : plan.bodyWires "Widget" =
      ["Id", "Count", "Enabled", "Tag", "Attributes", "Type", "Note", "Created"] := by
    rfl
  have same : ∀ wire ∈ plan.bodyWires "Widget",
      groupedWidget.named wire = scatteredWidget.named wire := by
    rw [wires]
    simp [Record.named, Record.children, groupedWidget, scatteredWidget, List.filterMap_cons,
      Part.child?, textChild]
  have decodes : ((plan.decodeXml [] "Widget" "Widget").run groupedWidget.events).any
      (·.1.isOk) := by
    rfl
  cases ran : (plan.decodeXml [] "Widget" "Widget").run groupedWidget.events with
  | none => simp [ran] at decodes
  | some read =>
    obtain ⟨_ | v, left⟩ := read
    · simp [ran, Except.isOk, Except.toBool] at decodes
    · exact ⟨v, ⟨left, ran⟩, (structures_ignore_interleaving struct [] same v).mp ⟨left, ran⟩⟩

end ServiceClient.Client.Widgets
