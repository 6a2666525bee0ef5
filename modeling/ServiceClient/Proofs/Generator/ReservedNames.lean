import ServiceClient.Proofs.Generator.Assembly
import ServiceClient.Proofs.Text.Case

/-! Type names beside the names that generated code itself refers to. A shape that is called like
one of them gets the service identifier in front. The name so made is never a keyword and never that
of the text type; whether it is reserved again is up to the identifier. -/

namespace ServiceClient.Generator
open ServiceClient.Schema ServiceClient.Sequence

theorem checkIdentifier_eq_ok {name identifier checked : String} :
    checkIdentifier name identifier = .ok checked ↔ Code.refusedKeyword identifier = false ∧
      Code.spellsIdentifier identifier ∧ identifier = checked := by
  unfold checkIdentifier
  split
  · simp [*]
  · split <;> simp [*]

theorem serviceIdentifier_eq_ok {m : Metadata} {override : Option String} {ident : String}
    (made : serviceIdentifier m override = .ok ident) :
    ident ≠ "" ∧ Code.spellsIdentifier ident := by
  simp only [serviceIdentifier] at made
  split at made
  · cases made
  · rename_i filled
    obtain ⟨-, spelt, rfl⟩ := checkIdentifier_eq_ok.mp made
    exact ⟨filled, spelt⟩

/-- Whether every letter behind the first is a small one, as in keywords. -/
def hasSmallTail (word : String) : Bool :=
  word.toList.tail.all Char.isLower

theorem hasSmallTail_of_refusedKeyword {word : String} (refused : Code.refusedKeyword word) :
    hasSmallTail word := by
  have all : Code.keywords.all hasSmallTail := by decide
  have listed : word ∈ Code.keywords := by
    simp only [Code.refusedKeyword, Code.isKeyword, Bool.and_eq_true] at refused
    simpa using refused.1
  exact List.all_eq_true.mp all word listed

theorem exists_pascalChars {name : String} (spelt : Text.pascalCase name ≠ "") :
    ∃ c rest, (Text.pascalCase name).toList = c :: rest ∧ c.isLower = false := by
  have chars : (Text.pascalCase name).toList = Text.pascalChars name.toList :=
    String.toList_ofList
  cases split : Text.pascalChars name.toList with
  | nil => exact absurd (String.toList_eq_nil_iff.mp (chars.trans split)) spelt
  | cons c rest => exact ⟨c, rest, chars.trans split, Text.head_pascalChars split⟩

/-- A capital or digit stands inside a name that is put together. -/
theorem hasSmallTail_append {lead name : String} (filled : lead ≠ "")
    (spelt : Text.pascalCase name ≠ "") : hasSmallTail (lead ++ Text.pascalCase name) = false := by
  obtain ⟨c, rest, chars, capital⟩ := exists_pascalChars spelt
  cases front : lead.toList with
  | nil => exact absurd (String.toList_eq_nil_iff.mp front) filled
  | cons d front => simp [hasSmallTail, String.toList_append, *]

/-- So a name put together is none of those that have only small letters there. -/
theorem append_pascalCase_ne {lead shape name : String} (filled : lead ≠ "")
    (spelt : Text.pascalCase shape ≠ "") (small : hasSmallTail name) :
    lead ++ Text.pascalCase shape ≠ name := by
  rintro rfl
  rw [hasSmallTail_append filled spelt] at small
  cases small

theorem spellsIdentifier_append {lead name : String} (spelt : Code.spellsIdentifier lead) :
    Code.spellsIdentifier (lead ++ Text.pascalCase name) := by
  have own : ∀ c ∈ Text.pascalChars name.toList, Code.continuesIdentifier c := by
    intro c mem
    have kept := Text.isAlphanum_of_mem_pascalChars mem
    rw [Char.isAlphanum, Bool.or_eq_true] at kept
    rcases kept with letter | digit
    · simp [Code.continuesIdentifier, Code.startsIdentifier, letter]
    · simp [Code.continuesIdentifier, digit]
  unfold Code.spellsIdentifier at spelt ⊢
  cases front : lead.toList with
  | nil => simp [front] at spelt
  | cons c front =>
    simp only [front, Bool.and_eq_true] at spelt
    simp only [String.toList_append, front, Text.pascalCase, String.toList_ofList, List.cons_append,
      List.all_append, Bool.and_eq_true]
    exact ⟨spelt.1, spelt.2, List.all_eq_true.mpr own⟩

namespace Names
variable {n : Names} {shape type : String}

/-- Whether the shape is the text type of generated code itself. -/
def isNative (n : Names) (shape : String) : Bool :=
  (n.service.shape? shape).any isNativeString

/-- Whether the service identifier goes in front of the name of a shape. -/
def isMoved (n : Names) (shape : String) : Bool :=
  Text.pascalCase shape == "String" || n.config.isReserved (Text.pascalCase shape) ||
    startsWithDigit (Text.pascalCase shape)

theorem typeIdent_of_not_native (plain : n.isNative shape = false) :
    n.typeIdent shape =
      if n.isMoved shape then n.serviceIdent ++ Text.pascalCase shape
      else Text.pascalCase shape := by
  simp only [typeIdent, show (n.service.shape? shape).any isNativeString = false from plain,
    Bool.false_eq_true, if_false]
  rfl

theorem typeName_eq_ok (typed : n.typeName shape = .ok type) :
    Text.pascalCase shape ≠ "" ∧ n.typeIdent shape = type := by
  unfold typeName at typed
  split at typed
  · cases typed
  · rename_i spelt
    exact ⟨spelt, (checkIdentifier_eq_ok.mp typed).2.2⟩

theorem new_eq_ok {service : Service} {config : Config} (made : new service config = .ok n) :
    n.service = service ∧ n.config = config ∧ n.serviceIdent ≠ "" ∧
      Code.spellsIdentifier n.serviceIdent := by
  obtain ⟨ident, named, ⟨⟩⟩ := bind_eq_ok.mp made
  exact ⟨rfl, rfl, serviceIdentifier_eq_ok named⟩

theorem typeName_of_moved (filled : n.serviceIdent ≠ "")
    (ident : Code.spellsIdentifier n.serviceIdent) (spelt : Text.pascalCase shape ≠ "")
    (plain : n.isNative shape = false) (moved : n.isMoved shape) :
    n.typeName shape = .ok (n.serviceIdent ++ Text.pascalCase shape) := by
  rw [typeName, if_neg spelt, typeIdent_of_not_native plain, if_pos moved, checkIdentifier_eq_ok]
  refine ⟨Bool.eq_false_iff.mpr fun refused => ?_, spellsIdentifier_append ident, rfl⟩
  exact append_pascalCase_ne filled spelt (hasSmallTail_of_refusedKeyword refused) rfl

/-- Only the text type itself has its name. -/
theorem typeName_ne_text (filled : n.serviceIdent ≠ "") (plain : n.isNative shape = false)
    (typed : n.typeName shape = .ok type) : type ≠ "String" := by
  obtain ⟨spelt, rfl⟩ := typeName_eq_ok typed
  rw [typeIdent_of_not_native plain]
  split
  · exact append_pascalCase_ne filled spelt rfl
  · rename_i kept
    simp only [isMoved, Bool.or_eq_true, not_or] at kept
    simpa using kept.1.1

end Names

/-- The types of a service keep clear of the reserved names exactly if no name with the service
identifier in front is reserved again. -/
theorem types_unreserved_iff {service : Service} {config : Config} {names : Names}
    (made : Names.new service config = .ok names) :
    (∀ shape type, names.typeName shape = .ok type → names.isNative shape = false →
      type ≠ "String" ∧ type ∉ config.reservedNames) ↔
    ∀ shape, Text.pascalCase shape ≠ "" → names.isNative shape = false → names.isMoved shape →
      names.serviceIdent ++ Text.pascalCase shape ∉ config.reservedNames := by
  obtain ⟨-, rfl, filled, ident⟩ := Names.new_eq_ok made
  constructor
  · intro apart shape spelt plain moved
    exact (apart shape _ (Names.typeName_of_moved filled ident spelt plain moved) plain).2
  · intro clear shape type typed plain
    refine ⟨Names.typeName_ne_text filled plain typed, ?_⟩
    obtain ⟨spelt, rfl⟩ := Names.typeName_eq_ok typed
    rw [Names.typeIdent_of_not_native plain]
    split
    · rename_i moved
      exact clear shape spelt plain moved
    · rename_i kept
      simp only [Names.isMoved, Config.isReserved, Bool.or_eq_true, not_or] at kept
      simpa using kept.1.2

theorem new_nodes : Names.new nodes {} = .ok ⟨nodes, {}, "Nodes"⟩ := by
  have ident : serviceIdentifier nodes.metadata none = .ok "Nodes" :=
    eq_ok_of_toOption (rfl)
  exact bind_eq_ok.mpr ⟨_, ident, rfl⟩

/-- No reserved name starts like the service, so that its types keep clear of all of them. -/
theorem nodes_types_unreserved : ∃ names, Names.new nodes {} = .ok names ∧
    ∀ shape type, names.typeName shape = .ok type → names.isNative shape = false →
      type ≠ "String" ∧ type ∉ ({} : Config).reservedNames := by
  have unlike : ({} : Config).reservedNames.all fun name =>
      !"Nodes".toList.isPrefixOf name.toList := by decide
  refine ⟨_, new_nodes, (types_unreserved_iff new_nodes).mpr fun shape _ _ _ reserved => ?_⟩
  have apart := List.all_eq_true.mp unlike _ reserved
  rw [String.toList_append, Bool.not_eq_true', ← Bool.not_eq_true, List.isPrefixOf_iff_prefix]
    at apart
  exact apart (List.prefix_append _ _)

/-- A service whose identifier turns one reserved name into another. -/
def parseText : String :=
  "\x7b\"metadata\":[\"parse\",\"rest-xml\"],\"shapes\":\x7b\"Error\":[\"string\"]\x7d\x7d"

def parse : Service where
  metadata := { endpointPrefix := "parse", protocol := some "rest-xml" }
  operations := []
  shapes := [{ name := "Error", kind := .primitive .string }]

set_option maxRecDepth 2000 in
theorem load_parseText : Service.load parseText = .ok parse :=
  Service.load_ofList (by decide +kernel)

/-- The shape is moved out of the way of `Error` and onto `ParseError`, the name under which the
decoders of the same module report their errors. -/
theorem moved_type_reserved : Service.load parseText = .ok parse ∧
    (∃ ctx plan, Context.new parse {} = .ok ctx ∧ ctx.validate = .ok () ∧ ctx.plan = .ok plan ∧
      ctx.names.typeName "Error" = .ok "ParseError" ∧ ctx.names.isNative "Error" = false ∧
      plan.declaration? "ParseError" = some ⟨[], "ParseError", .alias (.primitive .string)⟩) ∧
    "ParseError" ∈ ({} : Config).reservedNames := by
  have named : ((Context.new parse {}).toOption.map fun ctx =>
      ((ctx.names.typeName "Error").toOption, ctx.names.isNative "Error")) =
      some (some "ParseError", false) := rfl
  have planned : ((planService parse {}).toOption.bind (·.declaration? "ParseError")) =
      some ⟨[], "ParseError", .alias (.primitive .string)⟩ := rfl
  obtain ⟨plan, made, declared⟩ := Option.bind_eq_some_iff.mp planned
  obtain ⟨ctx, new, checked⟩ := bind_eq_ok.mp (eq_ok_of_toOption made)
  obtain ⟨valid, resolved⟩ := then_eq_ok.mp checked
  rw [new] at named
  obtain ⟨typed, plain⟩ := Prod.mk.inj (Option.some.inj named)
  have typed : ctx.names.typeName "Error" = .ok "ParseError" := eq_ok_of_toOption typed
  exact ⟨load_parseText, ⟨ctx, plan, new, valid, resolved, typed, plain, declared⟩,
    by decide⟩

end ServiceClient.Generator
