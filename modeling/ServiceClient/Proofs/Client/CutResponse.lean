import ServiceClient.Client.Call
import ServiceClient.Client.Widgets
import ServiceClient.Proofs.Codec.Readiness
import ServiceClient.Proofs.Markup.Root

/-! Responses of XML services that are cut short. The output of an operation is a structure within
the root of the document, so that no part of a document is decoded that lacks the end of the
root. -/

namespace ServiceClient.Client
open ServiceClient.Codec ServiceClient.Markup ServiceClient.Schema ServiceClient.Wire Reading

section Outputs
variable {m : Module} {output : Output} {r : Response}

/-- What the decoder of an output does with a document that has elements. -/
theorem decodeOutput_eq (xml : m.protocol = .restXml) {events : List Event}
    (scanned : events? r.body = some events) (opens : events.any Event.isOpening) :
    (decodeOutput m output r).run =
      ((m.decodeXml r.headers output.type (rootName events)).run events).map (·.1) := by
  have found : ofResponse output.shape r.body = .ok events := by
    rw [ofResponse, ofBytes, scanned]
    simp only [bind, Except.bind, opens, if_true]
  rw [decodeOutput, xml]
  simp only [found]
  rfl

/-- A response is decoded only if its root has an end. -/
theorem dropElements_eq_of_decodeOutput (xml : m.protocol = .restXml) {shape : String}
    {fields : List FieldRead} (body : m.decoderBody? output.type = some (.struct shape fields))
    {events : List Event} (scanned : events? r.body = some events)
    (opens : events.any Event.isOpening) {v : Codec.Value}
    (decoded : (decodeOutput m output r).run = some (.ok v)) :
    ∃ left, dropElements 1 (afterRoot events) = some left := by
  rw [decodeOutput_eq xml scanned opens] at decoded
  obtain ⟨⟨result, left⟩, yields, rfl⟩ := Option.map_eq_some_iff.mp decoded
  obtain ⟨_, rest, read, yields⟩ := yields_bind.mp yields
  obtain ⟨rfl, rfl⟩ := yields_remaining.mp read
  cases depth : m.callDepth events with
  | zero =>
    rw [depth] at yields
    exact absurd yields not_yields_missing
  | succ depth' =>
    rw [depth, Module.readXml, body] at yields
    obtain ⟨slots, rest, yields, -⟩ := yields_bind.mp yields
    exact ⟨rest, yields.dropElements_eq (consumes_allChildren
      (Module.consumes_readChild (Module.consumes_readXml depth')) _)⟩

theorem decodeOutput_ne_none (xml : m.protocol = .restXml)
    (ready : m.ready (m.shapes.length + 1) output.type) : (decodeOutput m output r).run ≠ none := by
  rw [decodeOutput, xml]
  intro stuck
  rcases Outcome.run_bind_eq_none.mp stuck with stuck | ⟨events, -, stuck⟩
  · exact Outcome.run_ofExcept_ne_none _ stuck
  · have deep : ∀ events : List Event, m.shapes.length + 1 ≤ m.callDepth events := fun events =>
      Nat.le_mul_of_pos_left _ (Nat.succ_pos _)
    have total : Total (m.decodeXml r.headers output.type (rootName events)) :=
      total_bind total_remaining fun _ _ _ _ => Module.total_readXml ready (deep _) _ _
    exact total events (Option.map_eq_none_iff.mp stuck)

/-- A response cut short within its root is an error. -/
theorem decodeOutput_cut (xml : m.protocol = .restXml) {shape : String} {fields : List FieldRead}
    (body : m.decoderBody? output.type = some (.struct shape fields))
    (ready : m.ready (m.shapes.length + 1) output.type) {before element part : List UInt8}
    (root : RootElement before element) (front : part <+: element) (filled : part ≠ [])
    (proper : part ≠ element) :
    ∃ e, (decodeOutput m output { r with body := before ++ part }).run = some (.error e) := by
  obtain ⟨result, settled⟩ := Option.ne_none_iff_exists'.mp
    (decodeOutput_ne_none (r := { r with body := before ++ part }) xml ready)
  cases result with
  | error e => exact ⟨e, settled⟩
  | ok v =>
    cases scanned : events? (before ++ part) with
    | none =>
      have failed : ofResponse output.shape (before ++ part) = .error .malformedXml := by
        rw [ofResponse, ofBytes, scanned]
        rfl
      rw [decodeOutput, xml] at settled
      simp only [failed] at settled
      cases settled
    | some events =>
      obtain ⟨opens, unclosed⟩ := root.cut front filled proper scanned
      obtain ⟨left, closed⟩ := dropElements_eq_of_decodeOutput xml body scanned opens settled
      rw [unclosed] at closed
      cases closed

end Outputs

namespace Widgets

/-- The output of every operation is a structure whose decoder has all that it calls. -/
theorem outputs_ready : plan.client.methods.all (fun op => op.output.all fun output =>
    plan.isStruct output.type && plan.ready (plan.shapes.length + 1) output.type) := by
  rfl

/-- A response cut short is never decoded. For a document that is decoded as the output of an
operation, there are bytes of the root element, and any part of the document that reaches into them
but not to their end is an error. -/
theorem cut_response_never_decoded {op : Method} (listed : op ∈ plan.client.methods)
    {output : Output} (returns : op.output = some output) {r : Response} {events : List Event}
    (scanned : events? r.body = some events) (opens : events.any Event.isOpening) {v : Codec.Value}
    (decoded : (decodeOutput plan output r).run = some (.ok v)) :
    (∃ before element after, r.body = before ++ element ++ after ∧ RootElement before element) ∧
      ∀ before element after, r.body = before ++ element ++ after → RootElement before element →
        ∀ part, part <+: r.body → before.length < part.length →
          part.length < before.length + element.length →
          ∃ e, (decodeOutput plan output { r with body := part }).run = some (.error e) := by
  have checked := List.all_eq_true.mp outputs_ready op listed
  rw [returns, Option.all_some, Bool.and_eq_true] at checked
  obtain ⟨struct, ready⟩ := checked
  obtain ⟨shape, fields, body⟩ := Module.exists_struct struct
  refine ⟨?_, ?_⟩
  · obtain ⟨left, closed⟩ := dropElements_eq_of_decodeOutput rfl body scanned opens decoded
    exact exists_rootElement scanned opens (by simp [closed])
  · intro before element after split root part front reaches short
    rw [split, List.append_assoc] at front
    obtain ⟨inner, rfl⟩ : before <+: part :=
      List.prefix_of_prefix_length_le (List.prefix_append _ _) front (Nat.le_of_lt reaches)
    rw [List.prefix_append_right_inj] at front
    rw [List.length_append] at reaches short
    have inside : inner <+: element :=
      List.prefix_of_prefix_length_le front (List.prefix_append _ _) (by omega)
    apply decodeOutput_cut rfl body ready root inside
    · rintro rfl
      simp at reaches
    · rintro rfl
      simp at short

/-- A response with a widget. -/
def sample : Response where
  status := 200
  body := asciiBytes "<Widget><Id>a</Id></Widget>"

theorem sample_cut_never_decoded :
    (∃ before element after,
        sample.body = before ++ element ++ after ∧ RootElement before element) ∧
      ∀ before element after, sample.body = before ++ element ++ after →
        RootElement before element → ∀ part, part <+: sample.body → before.length < part.length →
          part.length < before.length + element.length →
          ∃ e, (decodeOutput plan ⟨"Widget", "Widget"⟩ { sample with body := part }).run =
            some (.error e) := by
  have decodes :
      ((decodeOutput plan ⟨"Widget", "Widget"⟩ sample).run.bind Except.toOption).isSome := by
    decide +kernel
  obtain ⟨v, decoded⟩ := Option.isSome_iff_exists.mp decodes
  obtain ⟨result, ran, ok⟩ := Option.bind_eq_some_iff.mp decoded
  cases result with
  | error e => cases ok
  | ok v =>
    have scanned : events? sample.body = some
        [.opening "Widget", .opening "Id", .text "a", .closing "Id", .closing "Widget"] := by
      decide +kernel
    have listed : plan.client.methods[1] ∈ plan.client.methods := List.getElem_mem (by decide)
    exact cut_response_never_decoded listed rfl scanned rfl ran

end Widgets
end ServiceClient.Client
