import ServiceClient.Client.Widgets
import ServiceClient.Proofs.Codec.Carried
import ServiceClient.Proofs.Wire.Scalar

/-! Widgets encoded into the parameters of a request, rendered as a document and decoded again.
Lists and maps without anything in them leave no trace and come back as absent. -/

namespace ServiceClient.Client.Widgets
open ServiceClient.Codec ServiceClient.Markup ServiceClient.Schema ServiceClient.Wire Reading

/-- Attributes in the order of their names. -/
structure Attributes where
  entries : List (String × Int32)
  ascending : entries.Pairwise fun a b => a.1 < b.1

structure Widget where
  id : String
  count : Option Int32
  enabled : Option Bool
  tags : Option (List String)
  attributes : Option Attributes
  fieldType : Option String
  note : Option String
  created : Option String

namespace Widget

/-- The widget as the codecs of the client handle it. -/
def value (w : Widget) : Codec.Value :=
  .struct
    [ ("id", some (.scalar (.text w.id))),
      ("count", w.count.map fun n => .scalar (.integer n)),
      ("enabled", w.enabled.map fun b => .scalar (.boolean b)),
      ("tags", w.tags.map fun tags => .list (tags.map fun tag => .scalar (.text tag))),
      ("attributes", w.attributes.map fun attributes =>
        .map (attributes.entries.map fun e => (.text e.1, .scalar (.integer e.2)))),
      ("field_type", w.fieldType.map fun s => .scalar (.text s)),
      ("note", w.note.map fun s => .scalar (.text s)),
      ("created", w.created.map fun s => .scalar (.text s)) ]

/-- The widget whose tags and attributes are absent where there are none. -/
def withoutEmpty (w : Widget) : Widget :=
  { w with
    tags := w.tags.filter (!·.isEmpty)
    attributes := w.attributes.filter (!·.entries.isEmpty) }

/-- The members of the widget with the elements that hold them. -/
def members (w : Widget) : Members :=
  [ scalarMember ⟨"id", "Id", "String", true, none, .body none⟩ (some (.text w.id)),
    scalarMember ⟨"count", "Count", "Count", false, none, .body none⟩ (w.count.map .integer),
    scalarMember ⟨"enabled", "Enabled", "Flag", false, none, .body none⟩ (w.enabled.map .boolean),
    listMember ⟨"tags", "Tag", "TagList", false, some .list, .body none⟩
      (w.tags.map (·.map .text)),
    mapMember ⟨"attributes", "Attributes", "Attributes", false, some .map, .body none⟩ "key" "value"
      (w.attributes.map (·.entries.map fun e => (.text e.1, .integer e.2))),
    scalarMember ⟨"field_type", "Type", "String", false, none, .body none⟩
      (w.fieldType.map .text),
    scalarMember ⟨"note", "Note", "WidgetsMessage", false, none, .body none⟩ (w.note.map .text),
    scalarMember ⟨"created", "Created", "Stamp", false, none, .body none⟩ (w.created.map .text) ]

theorem given_members (w : Widget) : w.members.given = w.value := by
  simp [members, Members.given, scalarMember, listMember, mapMember, value, Function.comp_def]

theorem received_members (w : Widget) : w.members.received = w.withoutEmpty.value := by
  simp [members, Members.received, scalarMember, listMember, mapMember, value, withoutEmpty,
    Option.filter_map, Function.comp_def]

/-- The decoder of the document of a widget goes through no more nested calls than it may. -/
theorem exists_depth (events : List Event) : ∃ depth, plan.callDepth events = depth + 3 := by
  have shapes : plan.shapes.length = 16 := rfl
  refine ⟨plan.callDepth events - 3, ?_⟩
  rw [Module.callDepth, shapes]
  omega

theorem scalars_string : plan.Scalars "String" .string :=
  ⟨rfl, rfl⟩

theorem scalars_count : plan.Scalars "Count" .integer :=
  ⟨rfl, rfl⟩

theorem scalars_flag : plan.Scalars "Flag" .boolean :=
  ⟨rfl, rfl⟩

theorem scalars_message : plan.Scalars "WidgetsMessage" .string :=
  ⟨rfl, rfl⟩

theorem scalars_stamp : plan.Scalars "Stamp" .timestamp :=
  ⟨rfl, rfl⟩

theorem ofText_texts {kind : PrimitiveKind} (verbatim : kind = .string ∨ kind = .timestamp)
    (wire : String) (s : Option String) :
    ∀ v ∈ s.map Scalar.text, Scalar.ofText kind wire v.toText = .ok v := by
  intro v mem
  obtain ⟨s, -, rfl⟩ := Option.map_eq_some_iff.mp mem
  exact Scalar.ofText_text verbatim wire s

theorem carried_members (w : Widget) (headers : Headers) (depth : Nat) :
    ∀ p ∈ w.members, Carried plan headers (depth + 2) p.1 p.2 := by
  simp only [members, List.forall_mem_cons, List.not_mem_nil, false_imp_iff, implies_true, and_true]
  refine ⟨?id, ?count, ?enabled, ?tags, ?attributes, ?type, ?note, ?created⟩
  case id =>
    exact carried_scalarMember rfl rfl (by decide) scalars_string nofun
      (ofText_texts (.inl rfl) _ (some w.id))
  case type =>
    exact carried_scalarMember rfl rfl (by decide) scalars_string (fun _ => rfl)
      (ofText_texts (.inl rfl) _ _)
  case note =>
    exact carried_scalarMember rfl rfl (by decide) scalars_message (fun _ => rfl)
      (ofText_texts (.inl rfl) _ _)
  case created =>
    exact carried_scalarMember rfl rfl (by decide) scalars_stamp (fun _ => rfl)
      (ofText_texts (.inr rfl) _ _)
  case count =>
    refine carried_scalarMember rfl rfl (by decide) scalars_count (fun _ => rfl) fun v mem => ?_
    obtain ⟨n, -, rfl⟩ := Option.map_eq_some_iff.mp mem
    exact Scalar.ofText_integer _ n
  case enabled =>
    refine carried_scalarMember rfl rfl (by decide) scalars_flag (fun _ => rfl) fun v mem => ?_
    obtain ⟨b, -, rfl⟩ := Option.map_eq_some_iff.mp mem
    exact Scalar.ofText_boolean _ b
  case tags =>
    have encodes : plan.encoderBody? "TagList" = some (.list "String") := rfl
    have decodes : plan.decoderBody? "TagList" = some (.list "String") := rfl
    refine carried_listMember rfl rfl (by decide) encodes decodes scalars_string rfl
      fun vs mem v here => ?_
    obtain ⟨tags, -, rfl⟩ := Option.map_eq_some_iff.mp mem
    obtain ⟨tag, -, rfl⟩ := List.mem_map.mp here
    exact Scalar.ofText_text (.inl rfl) _ tag
  case attributes =>
    have encodes : plan.encoderBody? "Attributes" = some (.map "String" "Count" "key" "value") := by
      rfl
    have decodes : plan.decoderBody? "Attributes" = some (.map "String" "Count" "key" "value") := by
      rfl
    refine carried_mapMember rfl rfl (by decide) (by decide) (by decide) (by decide) encodes decodes
      scalars_string scalars_count rfl (fun es mem e here => ?_) fun es mem => ?_
    · obtain ⟨attributes, -, rfl⟩ := Option.map_eq_some_iff.mp mem
      obtain ⟨entry, -, rfl⟩ := List.mem_map.mp here
      exact ⟨Scalar.ofText_text (.inl rfl) _ entry.1, Scalar.ofText_integer _ entry.2⟩
    · obtain ⟨attributes, -, rfl⟩ := Option.map_eq_some_iff.mp mem
      refine List.pairwise_map.mpr (attributes.ascending.imp fun before => ?_)
      simp [before, String.lt_asymm before]

/-- The members as the decoder of widgets reads them. -/
def fields : List FieldRead :=
  [ ⟨"id", "Id", "String", true, none, .body none⟩,
    ⟨"count", "Count", "Count", false, none, .body none⟩,
    ⟨"enabled", "Enabled", "Flag", false, none, .body none⟩,
    ⟨"tags", "Tag", "TagList", false, some .list, .body none⟩,
    ⟨"attributes", "Attributes", "Attributes", false, some .map, .body none⟩,
    ⟨"field_type", "Type", "String", false, none, .body none⟩,
    ⟨"note", "Note", "WidgetsMessage", false, none, .body none⟩,
    ⟨"created", "Created", "Stamp", false, none, .body none⟩ ]

theorem fields_members (w : Widget) : w.members.map (·.2.field) = fields := rfl

theorem encoderBody?_widget :
    plan.encoderBody? "Widget" = some (.struct (fields.map (·.write))) := by
  rfl

theorem decoderBody?_widget : plan.decoderBody? "Widget" = some (.struct "Widget" fields) := by
  rfl

theorem filled_members (w : Widget) :
    ∀ p ∈ w.members, p.2.field.required → p.2.slot.isSome := by
  simp [members, scalarMember, listMember, mapMember]

/-- Every widget survives encoding, rendering and decoding, but for lists and maps that are
empty. -/
theorem survives_encode_and_decode (w : Widget) (method endpointPrefix region path root : String)
    (named : isName root) (headers : Headers) :
    ∃ sent, plan.encode "Widget" "" w.value { method, endpointPrefix, region, path } = some sent ∧
      ∃ events, ofBytes (Text.utf8 (document root sent.params)) = .ok events ∧
        (plan.decodeXml headers "Widget" root).run events =
          some (.ok w.withoutEmpty.value, []) := by
  obtain ⟨depth, deep⟩ := exists_depth (w.members.events root)
  have distinct : (w.members.map fun p => p.2.field.wire).Nodup := by
    have wires : (fields.map (·.wire)).Nodup := by decide
    rwa [← fields_members w, List.map_map] at wires
  have present : w.members.children ≠ [] := List.cons_ne_nil _ _
  obtain ⟨sent, encoded, scanned, read⟩ := carried_struct encoderBody?_widget decoderBody?_widget
    (w.carried_members headers depth) distinct present w.filled_members named
    (r := { method, endpointPrefix, region, path }) rfl
  rw [given_members] at encoded
  rw [received_members, ← deep] at read
  refine ⟨sent, encoded, _, scanned, ?_⟩
  exact yields_bind.mpr ⟨_, _, yields_remaining.mpr ⟨rfl, rfl⟩, read⟩

/-- A widget with markup in a text and a list without items. -/
def sample : Widget where
  id := "w-1"
  count := some 0
  enabled := some true
  tags := some []
  attributes := some ⟨[("size", 3), ("weight", 7)], by decide +kernel⟩
  fieldType := some ""
  note := some "fragile & <heavy>"
  created := none

theorem sample_survives :
    isName "Widget" ∧ ∃ sent,
      plan.encode "Widget" "" sample.value
          ⟨"POST", "widgets", "us-east-1", "/", [], [], [], none, none⟩ = some sent ∧
      ∃ events, ofBytes (Text.utf8 (document "Widget" sent.params)) = .ok events ∧
        (plan.decodeXml [] "Widget" "Widget").run events =
          some (.ok (Widget.value { sample with tags := none }), []) :=
  ⟨by decide, survives_encode_and_decode sample "POST" "widgets" "us-east-1" "/" "Widget"
    (by decide) []⟩

end Widget

end ServiceClient.Client.Widgets
