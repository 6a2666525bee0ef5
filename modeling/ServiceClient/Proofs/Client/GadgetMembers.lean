import ServiceClient.Client.Gadgets
import ServiceClient.Proofs.Client.WidgetDecoders
import ServiceClient.Proofs.Codec.JsonMembers

/-! The decoders of the gadget catalog ignore what should not matter in a body. -/

namespace ServiceClient.Client.Gadgets
open ServiceClient.Codec ServiceClient.Wire

theorem parts_distinct : plan.shapes.all (fun s => s.decoder.all fun decoder =>
    match decoder.body with
    | .struct _ fields => decide (bodyWires fields).Nodup
    | _ => true) := by
  rfl

theorem hasDistinctParts : plan.HasDistinctParts := by
  intro type shape fields body
  obtain ⟨decoder, emitted, whole⟩ := Option.map_eq_some_iff.mp body
  obtain ⟨-, s, mem, own⟩ := Module.mem_of_decoder? emitted
  have distinct := List.all_eq_true.mp parts_distinct s mem
  simpa only [own, Option.all_some, whole, decide_eq_true_eq] using distinct

/-- Bodies that write alike values are both read, and decoded to the same values. -/
theorem structures_ignore_edits {type : String} {body body' : List UInt8} {v w : Json.Value}
    (writes : Json.Value.writtenBody body = .ok v) (writes' : Json.Value.writtenBody body' = .ok w)
    (alike : plan.Alike type v w) :
    ∃ object object', Json.Value.ofBody body = .ok object ∧
      Json.Value.ofBody body' = .ok object' ∧
      ∀ headers field x, (plan.decodeJson headers type field object).run = some (.ok x) ↔
        (plan.decodeJson headers type field object').run = some (.ok x) :=
  ⟨_, _, by rw [Json.Value.ofBody_eq, writes]; rfl, by rw [Json.Value.ofBody_eq, writes']; rfl,
    fun _ => alike.decodesAlike hasDistinctParts⟩

def plainText : String :=
  "\x7b\"Gadget\":\x7b\"Name\":\"g\",\"Parts\":[\"p\"]\x7d\x7d"

/-- The same gadget in another order, with a member that is not known, a null one that hides a
later value, and a name that is repeated. -/
def editedText : String :=
  "\x7b\"Id\":true,\"Gadget\":\x7b\"Weight\":null,\"Parts\":[\"p\"],\"Weight\":false,
    \"Name\":\"g\",\"Name\":null\x7d\x7d"

def plainGadget : List (String × Json.Value) :=
  [("Name", .string "g"), ("Parts", .array [.string "p"])]

def editedGadget : List (String × Json.Value) :=
  [("Weight", .null), ("Parts", .array [.string "p"]), ("Weight", .bool false),
    ("Name", .string "g"), ("Name", .null)]

theorem gadgets_alike : plan.Alike "Gadget" (.object plainGadget) (.object editedGadget) :=
  have reordered : plan.Alike "Gadget" (.object plainGadget)
      (.object [("Parts", .array [.string "p"]), ("Name", .string "g")]) := by
    refine .reordered _ _ rfl fun name => ?_
    by_cases own : "Name" = name
    · subst own
      rfl
    · simp [plainGadget, List.filter_cons, own]
  reordered.trans <|
    .trans (.null [] _ "Weight" rfl (by decide)) <|
    .trans (.repeated [_, _] [_] "Weight" (.bool false) rfl (by decide)) <|
    .repeated [_, _, _, _] [] "Name" .null rfl (by decide)

theorem edited_gadget_decoded :
    ∃ v w object object' x, Json.Value.writtenBody (Text.utf8 plainText) = .ok v ∧
      Json.Value.writtenBody (Text.utf8 editedText) = .ok w ∧ plan.Alike "GetGadgetResult" v w ∧
      Json.Value.ofBody (Text.utf8 plainText) = .ok object ∧
      Json.Value.ofBody (Text.utf8 editedText) = .ok object' ∧
      (plan.decodeJson [] "GetGadgetResult" "body" object).run = some (.ok x) ∧
      (plan.decodeJson [] "GetGadgetResult" "body" object').run = some (.ok x) := by
  have writes : Json.Value.writtenBody (Text.utf8 plainText) =
      .ok (.object [("Gadget", .object plainGadget)]) :=
    Json.Value.writtenBody_ofList rfl
  have writes' : Json.Value.writtenBody (Text.utf8 editedText) =
      .ok (.object [("Id", .bool true), ("Gadget", .object editedGadget)]) :=
    Json.Value.writtenBody_ofList rfl
  have alike : plan.Alike "GetGadgetResult" (.object [("Gadget", .object plainGadget)])
      (.object [("Id", .bool true), ("Gadget", .object editedGadget)]) :=
    .trans (.member [] [] rfl List.mem_cons_self rfl gadgets_alike)
      (.unknown [] _ "Id" (.bool true) rfl (by decide))
  obtain ⟨object, object', read, read', same⟩ := structures_ignore_edits writes writes' alike
  have decodes : ∃ x, (plan.decodeJson [] "GetGadgetResult" "body" object).run =
      some (.ok x) := by
    rw [Json.Value.ofBody_eq, writes] at read
    cases read
    exact ⟨_, rfl⟩
  obtain ⟨x, decoded⟩ := decodes
  exact ⟨_, _, object, object', x, writes, writes', alike, read, read', decoded,
    (same [] "body" x).mp decoded⟩

end ServiceClient.Client.Gadgets
