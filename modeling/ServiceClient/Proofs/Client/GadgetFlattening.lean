import ServiceClient.Client.Gadgets
import ServiceClient.Proofs.Codec.Flattening
import ServiceClient.Proofs.Number.Integer

/-! Gadgets flattened into the parameters of a request. Nothing reads the parameters back, but they
tell everything of a gadget apart from whether labels, parts and the last error are absent or
empty. -/

namespace ServiceClient.Client.Gadgets
open ServiceClient.Codec ServiceClient.Wire

/-- Labels in the order of their names. -/
@[ext]
structure Labels where
  entries : List (String × String)
  ascending : entries.Pairwise fun a b => a.1 < b.1

@[ext]
structure LastError where
  code : Option String
  message : Option String

structure Gadget where
  name : String
  weight : Option Number.Double
  serial : Option Int64
  active : Option Bool
  labels : Option Labels
  parts : Option (List String)
  lastError : Option LastError

namespace LastError

def value (e : LastError) : Codec.Value :=
  .struct [("code", (e.code.map .text).map .scalar), ("message", (e.message.map .text).map .scalar)]

def isEmpty (e : LastError) : Bool :=
  e.code.isNone && e.message.isNone

end LastError

namespace Gadget

/-- The gadget as the codecs of the client handle it. -/
def value (g : Gadget) : Codec.Value :=
  .struct
    [ ("name", some (.scalar (.text g.name))),
      ("weight", (g.weight.map .double).map .scalar),
      ("serial", (g.serial.map .long).map .scalar),
      ("active", (g.active.map .boolean).map .scalar),
      ("labels", (g.labels.map fun labels => labels.entries.map fun e =>
        (Scalar.text e.1, Scalar.text e.2)).map fun entries =>
          .map (entries.map fun e => (e.1, .scalar e.2))),
      ("parts", (g.parts.map (·.map .text)).map fun items => .list (items.map .scalar)),
      ("last_error", g.lastError.map LastError.value) ]

/-- The gadget whose labels, parts and last error are absent where there is nothing in them. -/
def withoutEmpty (g : Gadget) : Gadget :=
  { g with
    labels := g.labels.filter (!·.entries.isEmpty)
    parts := g.parts.filter (!·.isEmpty)
    lastError := g.lastError.filter (!·.isEmpty) }

/-- Gadgets that are equal when empty parts count as absent and weights as their texts. -/
def Alike (g g' : Gadget) : Prop :=
  g.weight.map Number.Binary.text = g'.weight.map Number.Binary.text ∧
    { g.withoutEmpty with weight := none } = { g'.withoutEmpty with weight := none }

end Gadget

theorem isFlat_plan : plan.IsFlat :=
  Module.isFlat_of_all (by decide +kernel)

theorem scalar_string : plan.encoderBody? "String" = some .scalar := rfl

theorem toText_text (s : String) : (Scalar.text s).toText = s := rfl

theorem map_toText_long_inj {n k : Option Int64} :
    (n.map Scalar.long).map Scalar.toText = (k.map Scalar.long).map Scalar.toText ↔ n = k := by
  have injective : Function.Injective (Scalar.toText ∘ Scalar.long) := by
    intro n k same
    have digits : n.toInt.repr.toList = k.toInt.repr.toList := congrArg String.toList same
    have read := congrArg Number.integer? digits
    rw [Number.integer?_repr, Number.integer?_repr] at read
    exact Int64.toInt_inj.mp (Option.some.inj read)
  rw [Option.map_map, Option.map_map]
  exact (Option.map_injective injective).eq_iff

theorem map_toText_boolean_inj {a b : Option Bool} :
    (a.map Scalar.boolean).map Scalar.toText = (b.map Scalar.boolean).map Scalar.toText ↔
      a = b := by
  have injective : Function.Injective (Scalar.toText ∘ Scalar.boolean) := by
    intro a b
    cases a <;> cases b <;> decide
  rw [Option.map_map, Option.map_map]
  exact (Option.map_injective injective).eq_iff

theorem map_toText_text (s : Option String) : (s.map Scalar.text).map Scalar.toText = s := by
  cases s <;> rfl

theorem filter_eq_iff_getD {α : Type} {p : α → Bool} {empty : α}
    (only : ∀ a, p a = false ↔ a = empty) {o o' : Option α} :
    o.filter p = o'.filter p ↔ o.getD empty = o'.getD empty := by
  have nothing : p empty = false := (only empty).mpr rfl
  have kept : ∀ o : Option α, o.filter p =
      if p (o.getD empty) then some (o.getD empty) else none := by
    intro o
    cases o with
    | none => simp [nothing]
    | some a => exact Option.filter_some
  rw [kept, kept]
  constructor
  · intro same
    split at same <;> split at same
    · exact Option.some.inj same
    · cases same
    · cases same
    · rename_i first second
      exact ((only _).mp (by simpa using first)).trans ((only _).mp (by simpa using second)).symm
  · intro same
    rw [same]

namespace LastError
variable {e e' : LastError} {path : String}

theorem exists_writes (e : LastError) (path : String) :
    ∃ ws, plan.writes "GadgetsError" path e.value = some ws := by
  refine Module.exists_fieldWrites (.cons ⟨rfl, ?_⟩ (.cons ⟨rfl, ?_⟩ .nil)) <;>
    exact ⟨_, Module.memberWrites_scalar scalar_string _⟩

theorem writes_inj :
    plan.writes "GadgetsError" path e.value = plan.writes "GadgetsError" path e'.value ↔
      e = e' := by
  have body : plan.encoderBody? "GadgetsError" = some (.struct
      [⟨"code", false, .nested "String" "Code"⟩, ⟨"message", false, .nested "String" "Message"⟩]) :=
    rfl
  rw [value, value, isFlat_plan.writes_struct_inj body (by rfl) (e.exists_writes path)]
  simp only [List.zip_cons_cons, List.zip_nil_right, List.map_cons, List.map_nil, List.cons.injEq,
    Module.memberWrites_scalar_inj scalar_string, map_toText_text, and_true, LastError.ext_iff]

/-- Without code and message. -/
def empty : LastError := ⟨none, none⟩

theorem isEmpty_iff : e.isEmpty ↔ e = empty := by
  cases e
  simp [isEmpty, empty]

theorem memberWrites_eq (name field wire : String) (e : Option LastError) :
    plan.memberWrites name ⟨field, false, .nested "GadgetsError" wire⟩ (e.map value) =
      plan.writes "GadgetsError" (joinPath name wire) (e.getD empty).value := by
  cases e <;> rfl

end LastError

namespace Labels

def empty : Labels := ⟨[], .nil⟩

theorem isEmpty_iff {labels : Labels} : labels.entries.isEmpty ↔ labels = empty := by
  rw [List.isEmpty_iff, Labels.ext_iff, empty]

theorem map_toText (labels : Option Labels) :
    ((labels.map fun labels => labels.entries.map fun e =>
      (Scalar.text e.1, Scalar.text e.2)).getD []).map (fun e => (e.1.toText, e.2.toText)) =
        (labels.getD empty).entries := by
  cases labels with
  | none => rfl
  | some labels => simp [Function.comp_def, toText_text]

end Labels

theorem map_toText_items (items : Option (List String)) :
    ((items.map (·.map Scalar.text)).getD []).map Scalar.toText = items.getD [] := by
  cases items with
  | none => rfl
  | some items => simp [Function.comp_def, toText_text]

namespace Gadget
variable {g g' : Gadget} {name : String}

theorem exists_writes (g : Gadget) (name : String) :
    ∃ ws, plan.writes "Gadget" name g.value = some ws := by
  have error : ∃ ws, plan.memberWrites name
      ⟨"last_error", false, .nested "GadgetsError" "LastError"⟩
      (g.lastError.map LastError.value) = some ws := by
    rw [LastError.memberWrites_eq]
    exact LastError.exists_writes _ _
  exact Module.exists_fieldWrites
    (.cons ⟨rfl, _, rfl⟩
    (.cons ⟨rfl, _, Module.memberWrites_scalar rfl _⟩
    (.cons ⟨rfl, _, Module.memberWrites_scalar rfl _⟩
    (.cons ⟨rfl, _, Module.memberWrites_scalar rfl _⟩
    (.cons ⟨rfl, _, Module.memberWrites_map rfl scalar_string scalar_string _⟩
    (.cons ⟨rfl, _, Module.memberWrites_list rfl scalar_string _⟩
    (.cons ⟨rfl, error⟩ .nil)))))))

theorem writes_inj :
    plan.writes "Gadget" name g.value = plan.writes "Gadget" name g'.value ↔ g.Alike g' := by
  have body : plan.encoderBody? "Gadget" = some (.struct
      [ ⟨"name", true, .nested "String" "Name"⟩,
        ⟨"weight", false, .nested "Weight" "Weight"⟩,
        ⟨"serial", false, .nested "Serial" "Serial"⟩,
        ⟨"active", false, .nested "Flag" "Active"⟩,
        ⟨"labels", false, .nested "LabelMap" "Labels"⟩,
        ⟨"parts", false, .nested "PartList" "Parts"⟩,
        ⟨"last_error", false, .nested "GadgetsError" "LastError"⟩ ]) := rfl
  have weight : plan.encoderBody? "Weight" = some .scalar := rfl
  have serial : plan.encoderBody? "Serial" = some .scalar := rfl
  have flag : plan.encoderBody? "Flag" = some .scalar := rfl
  have labels : plan.encoderBody? "LabelMap" = some (.map "String" "String" "key" "value") := rfl
  have parts : plan.encoderBody? "PartList" = some (.list "String") := rfl
  have name_inj : plan.memberWrites name ⟨"name", true, .nested "String" "Name"⟩
        (some (.scalar (.text g.name))) =
      plan.memberWrites name ⟨"name", true, .nested "String" "Name"⟩
        (some (.scalar (.text g'.name))) ↔ g.name = g'.name := by
    simp [Module.memberWrites, Module.writes, scalar_string, toText_text]
  have only_labels : ∀ labels : Labels, (!labels.entries.isEmpty) = false ↔ labels = .empty :=
    fun labels => by rw [Bool.not_eq_false', Labels.isEmpty_iff]
  have only_parts : ∀ parts : List String, (!parts.isEmpty) = false ↔ parts = [] :=
    fun parts => by rw [Bool.not_eq_false', List.isEmpty_iff]
  have only_error : ∀ e : LastError, (!e.isEmpty) = false ↔ e = .empty :=
    fun e => by rw [Bool.not_eq_false', LastError.isEmpty_iff]
  rw [value, value, isFlat_plan.writes_struct_inj body (by rfl) (g.exists_writes name)]
  simp only [List.zip_cons_cons, List.zip_nil_right, List.map_cons, List.map_nil, List.cons.injEq,
    Module.memberWrites_scalar_inj weight, Module.memberWrites_scalar_inj serial,
    Module.memberWrites_scalar_inj flag, Module.memberWrites_list_inj parts scalar_string,
    Module.memberWrites_map_inj labels scalar_string scalar_string,
    LastError.memberWrites_eq, LastError.writes_inj, map_toText_long_inj, map_toText_boolean_inj,
    Labels.map_toText, map_toText_items, and_true]
  rw [name_inj, ← Labels.ext_iff, ← filter_eq_iff_getD only_labels, ← filter_eq_iff_getD only_parts,
    ← filter_eq_iff_getD only_error, Alike, Gadget.mk.injEq]
  simp only [Option.map_map]
  tauto

/-- A fresh request holds the parameters of a gadget as they were written, each of them once. -/
theorem exists_table (g : Gadget) (name : String) :
    ∃ t, plan.writes "Gadget" name g.value = some (puts t) ∧ Fills name t := by
  obtain ⟨ws, written⟩ := g.exists_writes name
  obtain ⟨t, rfl, fills⟩ := isFlat_plan.settled _ _ _ _ written
  exact ⟨t, written, fills⟩

end Gadget

/-- Flattening a gadget into a fresh request never replaces a parameter, and gadgets that are
flattened to the same parameters are alike. -/
theorem flattening_faithful (name : String) {r r' : Request} (fresh : r.params = [])
    (fresh' : r'.params = []) (g g' : Gadget) :
    (∃ ws, plan.writes "Gadget" name g.value = some ws ∧ PutsNew r ws) ∧
      ∃ sent sent', plan.encode "Gadget" name g.value r = some sent ∧
        plan.encode "Gadget" name g'.value r' = some sent' ∧
        (sent.params = sent'.params ↔ g.Alike g') := by
  obtain ⟨t, written, fills⟩ := g.exists_table name
  obtain ⟨t', written', fills'⟩ := g'.exists_table name
  refine ⟨⟨_, written, fills.putsNew fresh⟩, r.writeAll (puts t), r'.writeAll (puts t'),
    by rw [Module.encode, written, Option.map_some],
    by rw [Module.encode, written', Option.map_some], ?_⟩
  have told : plan.writes "Gadget" name g.value = plan.writes "Gadget" name g'.value ↔
      g.Alike g' := Gadget.writes_inj
  rw [written, written', Option.some_inj] at told
  rw [params_of_puts fresh fills.distinct, params_of_puts fresh' fills'.distinct, ← told]
  exact ⟨fun same => by rw [same], puts_inj⟩

/-- A gadget with labels, without parts and with an error that tells nothing. -/
def sample : Gadget where
  name := "lamp"
  weight := none
  serial := some 7
  active := some true
  labels := some ⟨[("color", "red"), ("size", "")], by decide +kernel⟩
  parts := some []
  lastError := some .empty

def blank : Request where
  method := "POST"
  endpointPrefix := "gadgets"
  region := "eu-west-1"
  path := "/"

example : (plan.encode "Gadget" "G" sample.value blank).map (·.params) =
    some [("G.Name", "lamp"), ("G.Serial", "7"), ("G.Active", "true"), ("G.Labels.1.key", "color"),
      ("G.Labels.1.value", "red"), ("G.Labels.2.key", "size"), ("G.Labels.2.value", "")] := by
  decide +kernel

theorem sample_flattened : blank.params = [] ∧
    (∃ ws, plan.writes "Gadget" "G" sample.value = some ws ∧ PutsNew blank ws) ∧
      ∃ sent sent', plan.encode "Gadget" "G" sample.value blank = some sent ∧
        plan.encode "Gadget" "G" sample.withoutEmpty.value blank = some sent' ∧
        (sent.params = sent'.params ↔ sample.Alike sample.withoutEmpty) :=
  ⟨rfl, flattening_faithful "G" rfl rfl sample sample.withoutEmpty⟩

end ServiceClient.Client.Gadgets
