import Mathlib
import ServiceClient.Proofs.Generator.ReservedNames
import ServiceClient.Proofs.Text.Percent

/-! The names that are resolved are identifiers, and none is refused that has one. Fields and methods
are words of letters, digits and underscores that are no keyword, whatever prefix is configured.
Types are words of letters and digits that start with a capital; `Self` alone has no type name,
unless it is reserved. -/

namespace ServiceClient.Generator
open ServiceClient.Schema ServiceClient.Sequence ServiceClient.Text

/-- A word that may name a field or method, keywords apart. -/
structure IsWord (word : String) : Prop where
  starts : ∃ c rest, word.toList = c :: rest ∧ (c.isAlpha ∨ c = '_')
  continues : ∀ c ∈ word.toList, c.isAlphanum ∨ c = '_'
  named : ∃ c ∈ word.toList, c ≠ '_'

/-- A word that may name a type. -/
structure IsTypeWord (word : String) : Prop where
  starts : ∃ c rest, word.toList = c :: rest ∧ c.isUpper
  continues : ∀ c ∈ word.toList, c.isAlphanum
  free : word ≠ "Self"

/-- Some character of the name is a letter or digit. -/
def HasLetterOrDigit (name : String) : Prop :=
  ∃ c ∈ name.toList, c.isAlphanum

section Spelling

theorem continuesIdentifier_of_word {c : Char} (kept : c.isAlphanum ∨ c = '_') :
    Code.continuesIdentifier c := by
  rcases kept with kept | rfl
  · rw [Char.isAlphanum, Bool.or_eq_true] at kept
    rcases kept with letter | digit
    · simp [Code.continuesIdentifier, Code.startsIdentifier, letter]
    · simp [Code.continuesIdentifier, digit]
  · rfl

theorem IsWord.spells {word : String} (spelt : IsWord word) : Code.spellsIdentifier word := by
  obtain ⟨c, rest, chars, first⟩ := spelt.starts
  have kept := spelt.continues
  rw [chars, List.forall_mem_cons] at kept
  rw [Code.spellsIdentifier, chars, Bool.and_eq_true, List.all_eq_true]
  refine ⟨?_, fun d mem => continuesIdentifier_of_word (kept.2 d mem)⟩
  rcases first with letter | rfl
  · simp [Code.startsIdentifier, letter]
  · rfl

theorem IsTypeWord.isWord {word : String} (spelt : IsTypeWord word) : IsWord word := by
  obtain ⟨c, rest, chars, upper⟩ := spelt.starts
  refine ⟨⟨c, rest, chars, .inl (by simp [Char.isAlpha, upper])⟩,
    fun d mem => .inl (spelt.continues d mem), c, by simp [chars], ?_⟩
  rintro rfl
  cases upper

end Spelling

section Keywords

/-- No keyword is made of other characters and a keyword. -/
theorem eq_of_keyword_suffix {word other : String} (long : word ∈ Code.keywords)
    (short : other ∈ Code.keywords) (suffix : other.toList <:+ word.toList) : other = word := by
  have all : Code.keywords.all fun word => Code.keywords.all fun other =>
      !other.toList.isSuffixOf word.toList || other == word := by
    decide +kernel
  have each := List.all_eq_true.mp (List.all_eq_true.mp all word long) other short
  rw [List.isSuffixOf_iff_suffix.mpr suffix] at each
  simpa using each

/-- All keywords are in lower case, but for one. -/
theorem isLower_of_keyword {word : String} (listed : word ∈ Code.keywords) :
    word = "Self" ∨ ∀ c ∈ word.toList, c.isLower := by
  have all : Code.keywords.all fun word => word == "Self" || word.toList.all Char.isLower := by
    decide +kernel
  simpa using List.all_eq_true.mp all word listed

theorem not_isDigit_of_isLower {c : Char} (lower : c.isLower) : c.isDigit = false := by
  simp only [Char.isLower, Char.isDigit, UInt32.le_iff_toNat_le, Bool.and_eq_true,
    Bool.and_eq_false_iff, decide_eq_true_eq, decide_eq_false_iff_not] at lower ⊢
  have first : 'a'.val.toNat = 97 := rfl
  have last : '9'.val.toNat = 57 := rfl
  omega

theorem not_isDigit_of_keyword {word : String} (listed : word ∈ Code.keywords) {c : Char}
    (mem : c ∈ word.toList) : c.isDigit = false := by
  rcases isLower_of_keyword listed with rfl | lower
  · have chars : "Self".toList = ['S', 'e', 'l', 'f'] := rfl
    rw [chars] at mem
    simp only [List.mem_cons, List.not_mem_nil, or_false] at mem
    rcases mem with rfl | rfl | rfl | rfl <;> rfl
  · exact not_isDigit_of_isLower (lower c mem)

theorem eq_self_of_keyword {word : String} (listed : word ∈ Code.keywords) {c : Char}
    {rest : List Char} (chars : word.toList = c :: rest) (upper : c.isUpper) : word = "Self" :=
  (isLower_of_keyword listed).resolve_right fun lower =>
    Char.not_isLower_of_isUpper upper (lower c (by simp [chars]))

theorem isKeyword_eq_false {word : String} :
    Code.isKeyword word = false ↔ word ∉ Code.keywords := by
  simp [Code.isKeyword]

theorem refusedKeyword_eq_false {word : String} (free : word ∉ Code.keywords) :
    Code.refusedKeyword word = false := by
  rw [Code.refusedKeyword, isKeyword_eq_false.mpr free, Bool.false_and]

end Keywords

section Fields

/-- The characters of an admissible prefix are those of a word. -/
theorem exists_lead {config : Config} (accepted : config.validate = .ok ()) :
    ∃ c rest, config.fieldPrefix.toList = c :: rest ∧ (c.isAlpha ∨ c = '_') ∧
      ∀ d ∈ rest, d.isAlphanum ∨ d = '_' := by
  have fits : Config.prefixOk config.fieldPrefix := by
    rw [Config.validate] at accepted
    split at accepted
    · cases accepted
    · rename_i fits
      simpa using fits
  unfold Config.prefixOk at fits
  split at fits
  · cases fits
  · rename_i c rest chars
    simp only [Bool.and_eq_true, Bool.or_eq_true, beq_iff_eq, List.all_eq_true] at fits
    exact ⟨c, rest, chars, fits⟩

namespace Names
variable {n : Names} {name : String}

/-- The name of a field or method before it is checked. -/
def snakeIdent (n : Names) (name : String) : String :=
  let snake := snakeCase name
  if Code.isKeyword snake || startsWithDigit snake then n.config.fieldPrefix ++ snake else snake

theorem snakeName_of_hasLetterOrDigit (named : HasLetterOrDigit name) :
    n.snakeName name = checkIdentifier name (n.snakeIdent name) := by
  obtain ⟨c, mem, kept⟩ := named
  have filled : (snakeCase name).toList.all (· == '_') = false := by
    rw [snakeCase, String.toList_ofList, all_snakeFrom, List.all_eq_false]
    exact ⟨c, mem, by simp [kept]⟩
  simp only [snakeName, filled, Bool.false_eq_true, if_false]
  rfl

theorem hasLetterOrDigit_of_snakeName {ident : String} (found : n.snakeName name = .ok ident) :
    HasLetterOrDigit name := by
  unfold snakeName at found
  dsimp only at found
  split at found
  · cases found
  · rename_i filled
    rw [snakeCase, String.toList_ofList, all_snakeFrom, Bool.not_eq_true, List.all_eq_false]
      at filled
    obtain ⟨c, mem, kept⟩ := filled
    exact ⟨c, mem, by simpa using kept⟩

theorem mem_snakeCase {c : Char} (mem : c ∈ (snakeCase name).toList) :
    c.isAlphanum ∨ c = '_' := by
  rw [snakeCase, String.toList_ofList] at mem
  rcases mem_snakeFrom mem with lower | digit | same
  · exact .inl (by simp [Char.isAlphanum, Char.isAlpha, lower])
  · exact .inl (by simp [Char.isAlphanum, digit])
  · exact .inr same

theorem exists_mem_snakeCase (named : HasLetterOrDigit name) :
    ∃ c ∈ (snakeCase name).toList, c ≠ '_' := by
  obtain ⟨c, mem, kept⟩ := named
  have filled : (snakeCase name).toList.all (· == '_') = false := by
    rw [snakeCase, String.toList_ofList, all_snakeFrom, List.all_eq_false]
    exact ⟨c, mem, by simp [kept]⟩
  obtain ⟨d, here, other⟩ := List.all_eq_false.mp filled
  exact ⟨d, here, by simpa using other⟩

theorem isWord_snakeIdent (accepted : n.config.validate = .ok ()) (named : HasLetterOrDigit name) :
    IsWord (n.snakeIdent name) := by
  obtain ⟨d, here, other⟩ := exists_mem_snakeCase named
  rw [snakeIdent]
  split
  · obtain ⟨c, rest, chars, first, others⟩ := exists_lead accepted
    have whole : (n.config.fieldPrefix ++ snakeCase name).toList =
        c :: (rest ++ (snakeCase name).toList) := by
      rw [String.toList_append, chars, List.cons_append]
    refine ⟨⟨c, _, whole, first⟩, fun e mem => ?_, d, ?_, other⟩
    · rw [whole] at mem
      rcases List.mem_cons.mp mem with rfl | mem
      · exact first.imp_left fun letter => by simp [Char.isAlphanum, letter]
      · rcases List.mem_append.mp mem with mem | mem
        · exact others e mem
        · exact mem_snakeCase mem
    · rw [String.toList_append]
      exact List.mem_append_right _ here
  · rename_i kept
    refine ⟨?_, fun e mem => mem_snakeCase mem, d, here, other⟩
    cases chars : (snakeCase name).toList with
    | nil => simp [chars] at here
    | cons c rest =>
      refine ⟨c, rest, rfl, ?_⟩
      have here : c ∈ (snakeCase name).toList := by simp [chars]
      rcases mem_snakeCase here with letter | same
      · rw [Char.isAlphanum, Bool.or_eq_true] at letter
        have plain : ¬c.isDigit := by
          simp only [startsWithDigit, chars, List.head?_cons, Option.any_some, Bool.or_eq_true,
            not_or] at kept
          exact kept.2
        exact .inl (letter.resolve_right plain)
      · exact .inr same

/-- No prefix turns a keyword, or what starts with a digit, into a keyword. -/
theorem snakeIdent_not_keyword (accepted : n.config.validate = .ok ()) :
    n.snakeIdent name ∉ Code.keywords := by
  obtain ⟨c, rest, chars, -⟩ := exists_lead accepted
  rw [snakeIdent]
  split
  · rename_i clashes
    intro listed
    have whole : (n.config.fieldPrefix ++ snakeCase name).toList =
        c :: rest ++ (snakeCase name).toList := by
      rw [String.toList_append, chars]
    rcases Bool.or_eq_true_iff.mp clashes with keyword | digit
    · have short : snakeCase name ∈ Code.keywords := by simpa [Code.isKeyword] using keyword
      have suffix :
          (snakeCase name).toList <:+ (n.config.fieldPrefix ++ snakeCase name).toList := by
        rw [whole]
        exact List.suffix_append _ _
      have same := eq_of_keyword_suffix listed short suffix
      have long := congrArg (fun s => s.toList.length) same
      simp only [whole, List.length_append, List.length_cons] at long
      omega
    · obtain ⟨d, first, digit⟩ := (Option.any_eq_true _ _).mp digit
      have inside : d ∈ (n.config.fieldPrefix ++ snakeCase name).toList := by
        rw [whole]
        exact List.mem_append_right _ (List.mem_of_mem_head? first)
      rw [not_isDigit_of_keyword listed inside] at digit
      cases digit
  · rename_i kept
    simp only [Bool.or_eq_true, not_or, Bool.not_eq_true] at kept
    exact isKeyword_eq_false.mp kept.1

theorem snakeName_of_validate (accepted : n.config.validate = .ok ())
    (named : HasLetterOrDigit name) : n.snakeName name = .ok (n.snakeIdent name) := by
  rw [snakeName_of_hasLetterOrDigit named, checkIdentifier_eq_ok]
  exact ⟨refusedKeyword_eq_false (snakeIdent_not_keyword accepted),
    (isWord_snakeIdent accepted named).spells, rfl⟩

end Names
end Fields

section Types

theorem pascalCase_ne_empty {name : String} : pascalCase name ≠ "" ↔ HasLetterOrDigit name := by
  have spelt : pascalCase name = "" ↔ pascalChars name.toList = [] := by
    rw [← String.toList_eq_nil_iff, pascalCase, String.toList_ofList]
  rw [ne_eq, spelt, pascalChars_eq_nil, HasLetterOrDigit]
  simp

theorem isAlphanum_of_mem_pascalCase {name : String} {c : Char}
    (mem : c ∈ (pascalCase name).toList) : c.isAlphanum := by
  rw [pascalCase, String.toList_ofList] at mem
  exact isAlphanum_of_mem_pascalChars mem

/-- A name in Pascal case that starts with a letter starts with a capital. -/
theorem exists_capital {name : String} (spelt : pascalCase name ≠ "")
    (letter : ∀ c ∈ (pascalCase name).toList.head?, c.isAlpha) :
    ∃ c rest, (pascalCase name).toList = c :: rest ∧ c.isUpper := by
  obtain ⟨c, rest, chars, capital⟩ := exists_pascalChars spelt
  have first := letter c (by simp [chars])
  exact ⟨c, rest, chars, by simpa [Char.isAlpha, capital] using first⟩

theorem isAlpha_of_not_digit {name : String}
    (plain : Names.startsWithDigit (pascalCase name) = false) :
    ∀ c ∈ (pascalCase name).toList.head?, c.isAlpha := by
  intro c first
  have kept := isAlphanum_of_mem_pascalCase (List.mem_of_mem_head? first)
  have other : c.isDigit = false := by
    rw [Names.startsWithDigit, Option.mem_def.mp first, Option.any_some] at plain
    exact plain
  simpa [Char.isAlphanum, other] using kept

theorem isAlpha_of_spells {name : String} (spelt : Code.spellsIdentifier (pascalCase name)) :
    ∀ c ∈ (pascalCase name).toList.head?, c.isAlpha := by
  intro c first
  have kept := isAlphanum_of_mem_pascalCase (List.mem_of_mem_head? first)
  have ascii : c.toNat < 0x80 := (keeps_unreserved c (by simp [unreserved, kept])).1
  have starts : Code.startsIdentifier c := by
    obtain ⟨rest, chars⟩ := List.head?_eq_some_iff.mp first
    rw [Code.spellsIdentifier, chars, Bool.and_eq_true] at spelt
    exact spelt.1
  simp only [Code.startsIdentifier, Bool.or_eq_true, beq_iff_eq, decide_eq_true_eq] at starts
  rcases starts with (letter | rfl) | high
  · exact letter
  · cases kept
  · omega

/-- A capital and then letters and digits, with or without the service identifier in front. -/
theorem isTypeWord_append {lead name : String}
    (starts : ∃ c rest, lead.toList = c :: rest ∧ c.isUpper)
    (continues : ∀ c ∈ lead.toList, c.isAlphanum) (spelt : pascalCase name ≠ "") :
    IsTypeWord (lead ++ pascalCase name) := by
  obtain ⟨c, rest, chars, upper⟩ := starts
  have filled : lead ≠ "" := by
    rintro rfl
    cases chars
  refine ⟨⟨c, rest ++ (pascalCase name).toList, ?_, upper⟩, fun d mem => ?_,
    append_pascalCase_ne filled spelt rfl⟩
  · rw [String.toList_append, chars, List.cons_append]
  · rw [String.toList_append] at mem
    exact (List.mem_append.mp mem).elim (continues d) isAlphanum_of_mem_pascalCase

namespace Names
variable {n : Names} {name : String}

theorem serviceIdent_isPascal {service : Service} {config : Config}
    (made : new service config = .ok n) : ∃ raw, n.serviceIdent = pascalCase raw := by
  obtain ⟨ident, named, ⟨⟩⟩ := bind_eq_ok.mp made
  simp only [serviceIdentifier] at named
  split at named
  · cases named
  · exact ⟨_, (checkIdentifier_eq_ok.mp named).2.2.symm⟩

/-- What keeps its place is a type word unless it is `Self`, and then is refused. -/
theorem typeName_of_kept (spelt : pascalCase name ≠ "") (plain : n.isNative name = false)
    (kept : n.isMoved name = false) :
    (pascalCase name = "Self" ∧ ∀ type, n.typeName name ≠ .ok type) ∨
      IsTypeWord (pascalCase name) ∧ n.typeName name = .ok (pascalCase name) := by
  have resolved : n.typeName name = checkIdentifier name (pascalCase name) := by
    rw [typeName, if_neg spelt, typeIdent_of_not_native plain, kept]
    rfl
  have digits : startsWithDigit (pascalCase name) = false := by
    simp only [isMoved, Bool.or_eq_false_iff] at kept
    exact kept.2
  by_cases own : pascalCase name = "Self"
  · refine .inl ⟨own, fun type typed => ?_⟩
    rw [resolved, checkIdentifier_eq_ok, own] at typed
    exact absurd typed.1 (by decide)
  · have word : IsTypeWord (pascalCase name) :=
      ⟨exists_capital spelt (isAlpha_of_not_digit digits),
        fun c mem => isAlphanum_of_mem_pascalCase mem, own⟩
    refine .inr ⟨word, ?_⟩
    rw [resolved, checkIdentifier_eq_ok]
    refine ⟨refusedKeyword_eq_false fun listed => ?_, word.isWord.spells, rfl⟩
    obtain ⟨c, rest, chars, upper⟩ := word.starts
    exact own (eq_self_of_keyword listed chars upper)

/-- Every name with a letter or digit has a type name, but for an unreserved `Self`. -/
theorem typeName_cases {service : Service} {config : Config} (made : new service config = .ok n)
    (named : HasLetterOrDigit name) :
    (pascalCase name = "Self" ∧ "Self" ∉ config.reservedNames ∧
      ∀ type, n.typeName name ≠ .ok type) ∨
    (pascalCase name = "Self" → "Self" ∈ config.reservedNames) ∧
      ∃ type, IsTypeWord type ∧ n.typeName name = .ok type := by
  obtain ⟨rfl, rfl, filled, ident⟩ := new_eq_ok made
  have spelt : pascalCase name ≠ "" := pascalCase_ne_empty.mpr named
  cases native : n.isNative name with
  | true =>
    obtain ⟨shape, found, native⟩ := (Option.any_eq_true _ _).mp native
    have text : pascalCase name = "String" := by
      rw [← (Service.shape?_eq_some found).2]
      simp only [isNativeString, Bool.and_eq_true, beq_iff_eq] at native
      exact native.1
    have word : IsTypeWord "String" :=
      ⟨⟨'S', "tring".toList, rfl, rfl⟩, by simp, by decide⟩
    exact .inr ⟨fun own => absurd (text.symm.trans own) (by decide), "String", word,
      typeName_native found native⟩
  | false =>
    cases moved : n.isMoved name with
    | true =>
      obtain ⟨raw, pascal⟩ := serviceIdent_isPascal made
      have typed := typeName_of_moved filled ident spelt native moved
      rw [pascal] at filled ident typed
      refine .inr ⟨fun own => ?_, _, isTypeWord_append (exists_capital filled
        (isAlpha_of_spells ident)) (fun c mem => isAlphanum_of_mem_pascalCase mem) spelt, typed⟩
      simp only [isMoved, own, Config.isReserved, Bool.or_eq_true] at moved
      rcases moved with (text | reserved) | digit
      · exact absurd text (by decide)
      · simpa using reserved
      · exact absurd digit (by decide)
    | false =>
      rcases typeName_of_kept spelt native moved with ⟨own, refused⟩ | ⟨word, typed⟩
      · refine .inl ⟨own, ?_, refused⟩
        simp only [isMoved, own, Config.isReserved, Bool.or_eq_false_iff] at moved
        simpa using moved.1.2
      · exact .inr ⟨fun own => absurd own word.free, _, word, typed⟩

end Names
end Types

/-- Fields, methods and types are named exactly where there is a letter or digit to name them by, a
type not by an unreserved `Self`, and all names are words of their kind. -/
theorem identifiers_valid_iff {service : Service} {config : Config} {names : Names}
    (accepted : config.validate = .ok ()) (made : Names.new service config = .ok names)
    (name : String) :
    ((∃ ident, names.snakeName name = .ok ident) ↔ HasLetterOrDigit name) ∧
    (∀ ident, names.snakeName name = .ok ident → IsWord ident ∧ ident ∉ Code.keywords) ∧
    ((∃ type, names.typeName name = .ok type) ↔
      HasLetterOrDigit name ∧ ¬(pascalCase name = "Self" ∧ "Self" ∉ config.reservedNames)) ∧
    ∀ type, names.typeName name = .ok type → IsTypeWord type := by
  obtain ⟨-, own, -, -⟩ := Names.new_eq_ok made
  rw [← own] at accepted
  have typed : ∀ {type}, names.typeName name = .ok type → HasLetterOrDigit name := fun found =>
    pascalCase_ne_empty.mp (Names.typeName_eq_ok found).1
  refine ⟨⟨fun ⟨ident, found⟩ => Names.hasLetterOrDigit_of_snakeName found, fun named =>
    ⟨_, Names.snakeName_of_validate accepted named⟩⟩, fun ident found => ?_,
    ⟨fun ⟨type, found⟩ => ⟨typed found, fun unreserved => ?_⟩, fun ⟨named, free⟩ => ?_⟩,
    fun type found => ?_⟩
  · have named := Names.hasLetterOrDigit_of_snakeName found
    rw [Names.snakeName_of_validate accepted named] at found
    cases found
    exact ⟨Names.isWord_snakeIdent accepted named, Names.snakeIdent_not_keyword accepted⟩
  · rcases Names.typeName_cases made (typed found) with ⟨-, -, refused⟩ | ⟨reserved, -⟩
    · exact refused type found
    · exact unreserved.2 (reserved unreserved.1)
  · rcases Names.typeName_cases made named with ⟨own, unreserved, -⟩ | ⟨-, type, -, found⟩
    · exact absurd ⟨own, unreserved⟩ free
    · exact ⟨type, found⟩
  · rcases Names.typeName_cases made (typed found) with ⟨-, -, refused⟩ | ⟨-, other, word, found'⟩
    · exact absurd found (refused type)
    · cases found.symm.trans found'
      exact word

/-- A keyword and reserved type gets the prefix on the one side and the identifier on the other. -/
theorem self_named_in_nodes : ({ fieldPrefix := "_" } : Config).validate = .ok () ∧
    ∃ names, Names.new nodes { fieldPrefix := "_" } = .ok names ∧
      names.snakeName "Self" = .ok "_self" ∧ IsWord "_self" ∧ "_self" ∉ Code.keywords ∧
      names.typeName "Self" = .ok "NodesSelf" ∧ IsTypeWord "NodesSelf" := by
  have accepted : ({ fieldPrefix := "_" } : Config).validate = .ok () := by decide +kernel
  have ident : serviceIdentifier nodes.metadata none = .ok "Nodes" :=
    eq_ok_of_toOption (by decide +kernel)
  have made : Names.new nodes { fieldPrefix := "_" } =
      .ok ⟨nodes, { fieldPrefix := "_" }, "Nodes"⟩ :=
    bind_eq_ok.mpr ⟨_, ident, rfl⟩
  obtain ⟨-, words, -, types⟩ := identifiers_valid_iff accepted made "Self"
  have field : (⟨nodes, { fieldPrefix := "_" }, "Nodes"⟩ : Names).snakeName "Self" =
      .ok "_self" := eq_ok_of_toOption (by decide +kernel)
  have type : (⟨nodes, { fieldPrefix := "_" }, "Nodes"⟩ : Names).typeName "Self" =
      .ok "NodesSelf" := eq_ok_of_toOption (by decide +kernel)
  obtain ⟨word, free⟩ := words _ field
  exact ⟨accepted, _, made, field, word, free, type, types _ type⟩

end ServiceClient.Generator
