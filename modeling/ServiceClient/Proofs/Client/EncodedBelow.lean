import ServiceClient.Proofs.Client.GadgetFlattening
import ServiceClient.Proofs.Client.WidgetRoundTrip
import ServiceClient.Proofs.Codec.NamePrefix

/-! Widgets and gadgets encoded under a name. The parameters are those of the empty name with the
name in front, and nothing else of the request is touched. -/

namespace ServiceClient.Client
open ServiceClient.Codec ServiceClient.Wire

namespace Widgets

theorem keepsToParams_plan : plan.KeepsToParams
    ["Widget", "String", "Count", "Flag", "TagList", "Attributes", "WidgetsMessage", "Stamp"] := by
  decide +kernel

theorem Widget.exists_writes (w : Widget) (name : String) :
    ∃ ws, plan.writes "Widget" name w.value = some ws := by
  have text : plan.encoderBody? "String" = some .scalar := rfl
  have count : plan.encoderBody? "Count" = some .scalar := rfl
  rw [← w.given_members]
  exact Module.exists_fieldWrites
    (.cons ⟨rfl, _, rfl⟩
    (.cons ⟨rfl, _, Module.memberWrites_scalar rfl _⟩
    (.cons ⟨rfl, _, Module.memberWrites_scalar rfl _⟩
    (.cons ⟨rfl, _, Module.memberWrites_list rfl text _⟩
    (.cons ⟨rfl, _, Module.memberWrites_map rfl text count _⟩
    (.cons ⟨rfl, _, Module.memberWrites_scalar rfl _⟩
    (.cons ⟨rfl, _, Module.memberWrites_scalar rfl _⟩
    (.cons ⟨rfl, _, Module.memberWrites_scalar rfl _⟩ .nil))))))))

end Widgets

namespace Gadgets

theorem keepsToParams_plan : plan.KeepsToParams
    ["Gadget", "String", "Weight", "Serial", "Flag", "LabelMap", "PartList", "GadgetsError"] := by
  decide +kernel

end Gadgets

/-- Under every name a widget or gadget is encoded as it is at the top, below that name. -/
theorem encoding_uniform_below {p : String} (named : p ≠ "") (r : Request) :
    (∀ w : Widgets.Widget, Widgets.plan.EncodesBelow "Widget" w.value p r) ∧
      ∀ g : Gadgets.Gadget, Gadgets.plan.EncodesBelow "Gadget" g.value p r := by
  constructor
  · intro w
    exact Widgets.keepsToParams_plan.encodesBelow (by simp) named (w.exists_writes "") r
  · intro g
    exact Gadgets.keepsToParams_plan.encodesBelow (by simp) named (g.exists_writes "") r

/-- A request with parameters of its own, one of them called as the value below. -/
def begun : Request :=
  { Gadgets.blank with params := [("Action", "PutGadget"), ("G", "kept")] }

example : (Gadgets.plan.encode "Gadget" "G" Gadgets.sample.value begun).map
    (·.params.map (·.1)) = some ["Action", "G", "G.Name", "G.Serial", "G.Active", "G.Labels.1.key",
      "G.Labels.1.value", "G.Labels.2.key", "G.Labels.2.value"] := by
  decide +kernel

theorem samples_below_begun : "G" ≠ "" ∧
    Widgets.plan.EncodesBelow "Widget" Widgets.Widget.sample.value "G" begun ∧
      Gadgets.plan.EncodesBelow "Gadget" Gadgets.sample.value "G" begun :=
  ⟨by decide, (encoding_uniform_below (by decide) begun).1 _,
    (encoding_uniform_below (by decide) begun).2 _⟩

end ServiceClient.Client
