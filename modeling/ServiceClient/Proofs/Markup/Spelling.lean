import ServiceClient.Markup.Scan
import ServiceClient.Proofs.Markup.Rendering

/-! A tree of elements with text around them, and all the ways to write it. An element without
content may close itself, names may have a prefix, tags may hold attributes, and a text is written
in fragments: literally, by references, as data sections, with comments and instructions between. -/

namespace ServiceClient.Markup
open ServiceClient.Text

abbrev Name := {name : String // isName name}

/-- An element with the text in front of its first child, and its children, each with the text
behind it. -/
inductive Element where
  | mk (name : Name) (lead : String) (children : List (Element × String))

def textEvents (s : String) : List Event :=
  if s = "" then [] else [.text s]

namespace Element

mutual

def events : Element → List Event
  | .mk name lead children =>
    .opening name.1 :: (textEvents lead ++ childEvents children) ++ [.closing name.1]

def childEvents : List (Element × String) → List Event
  | [] => []
  | (e, tail) :: children => e.events ++ textEvents tail ++ childEvents children

end

end Element

abbrev Space := {bytes : List UInt8 // ∀ b ∈ bytes, isSpace b}

/-- A name with or without a prefix. -/
structure FullName where
  qualifier : Option Name
  own : Name

def FullName.bytes (n : FullName) : List UInt8 :=
  match n.qualifier with
  | none => utf8 n.own.1
  | some q => utf8 q.1 ++ ascii ':' :: utf8 n.own.1

structure Attribute where
  before : Space
  apart : before.1 ≠ []
  name : FullName
  beforeSign : Space
  afterSign : Space
  quote : UInt8
  quotes : quote = ascii '"' ∨ quote = ascii '\''
  value : List UInt8
  inside : quote ∉ value

def Attribute.bytes (a : Attribute) : List UInt8 :=
  a.before.1 ++ a.name.bytes ++ a.beforeSign.1 ++ ascii '=' :: a.afterSign.1 ++
    a.quote :: a.value ++ [a.quote]

/-- What stands in an opening tag, up to its `>` or `/>`. -/
structure Tag where
  name : FullName
  attributes : List Attribute
  after : Space

def Tag.bytes (t : Tag) : List UInt8 :=
  t.name.bytes ++ t.attributes.flatMap Attribute.bytes ++ t.after.1

/-- What stands between `&` and `;` for a character. -/
inductive Refers : String → Char → Prop
  | amp : Refers "amp" '&'
  | lt : Refers "lt" '<'
  | gt : Refers "gt" '>'
  | quot : Refers "quot" '"'
  | apos : Refers "apos" '\''
  | decimal {digits : List Char} {c : Char} (number : Number.natural? digits = some c.toNat)
      (visible : c ≠ Char.ofNat 0) : Refers (String.ofList ('#' :: digits)) c
  | hexadecimal {digits : List Char} {c : Char} (number : Number.hexadecimal? digits = some c.toNat)
      (visible : c ≠ Char.ofNat 0) : Refers (String.ofList ('#' :: 'x' :: digits)) c

/-- A part of what is written between two tags. Comments, data sections and instructions hold
nothing that ends them. -/
inductive Fragment where
  | literal (s : String) (plain : '<' ∉ s.toList ∧ '&' ∉ s.toList)
  | reference (name : String) (c : Char) (refers : Refers name c)
  | data (s : String) (filled : s ≠ "") (within : ¬asciiBytes "]]>" <:+: utf8 s)
  | comment (body : List UInt8) (within : ¬asciiBytes "-->" <:+: body)
  | instruction (body : List UInt8) (named : body.head? ≠ some (ascii '>'))
      (within : ¬asciiBytes "?>" <:+: body)

namespace Fragment

def bytes : Fragment → List UInt8
  | literal s _ => utf8 s
  | reference name _ _ => ascii '&' :: (utf8 name ++ [ascii ';'])
  | data s _ _ => asciiBytes "<![CDATA[" ++ utf8 s ++ asciiBytes "]]>"
  | comment body _ => asciiBytes "<!--" ++ body ++ asciiBytes "-->"
  | instruction body _ _ => asciiBytes "<?" ++ body ++ asciiBytes "?>"

/-- The characters that a fragment stands for. -/
def chars : Fragment → List Char
  | literal s _ => s.toList
  | reference _ c _ => [c]
  | data s _ _ => s.toList
  | comment _ _ => []
  | instruction _ _ _ => []

end Fragment

/-- The text that fragments make together. -/
def textOf (fragments : List Fragment) : String :=
  String.ofList (fragments.flatMap Fragment.chars)

/-- An element as it is written. A closing tag repeats the full name of its opening tag. -/
inductive Spelling where
  | whole (tag : Tag)
  | pair (tag : Tag) (lead : List Fragment) (children : List (Spelling × List Fragment))
      (after : Space)

namespace Spelling

mutual

def bytes : Spelling → List UInt8
  | .whole tag => ascii '<' :: tag.bytes ++ asciiBytes "/>"
  | .pair tag lead children after =>
    ascii '<' :: tag.bytes ++ asciiBytes ">" ++ lead.flatMap Fragment.bytes ++
      childBytes children ++ asciiBytes "</" ++ tag.name.bytes ++ after.1 ++ asciiBytes ">"

def childBytes : List (Spelling × List Fragment) → List UInt8
  | [] => []
  | (w, tail) :: children => w.bytes ++ tail.flatMap Fragment.bytes ++ childBytes children

end

mutual

/-- The element that is written. -/
def element : Spelling → Element
  | .whole tag => .mk tag.name.own "" []
  | .pair tag lead children _ => .mk tag.name.own (textOf lead) (elements children)

def elements : List (Spelling × List Fragment) → List (Element × String)
  | [] => []
  | (w, tail) :: children => (w.element, textOf tail) :: elements children

end

end Spelling

/-- A text written with the two signs that mean something by reference. -/
def fragmentsOf (s : List Char) : List Fragment :=
  s.map fun c =>
    if tag : c = '<' then .reference "lt" c (tag ▸ .lt)
    else if reference : c = '&' then .reference "amp" c (reference ▸ .amp)
    else .literal (String.singleton c) (by simp [Ne.symm tag, Ne.symm reference])

theorem textOf_fragmentsOf (s : List Char) : textOf (fragmentsOf s) = String.ofList s := by
  have each : (fragmentsOf s).flatMap Fragment.chars = s := by
    induction s with
    | nil => rfl
    | cons c s ih =>
      rw [fragmentsOf, List.map_cons, List.flatMap_cons]
      change _ ++ (fragmentsOf s).flatMap Fragment.chars = _
      rw [ih]
      split
      · rfl
      split
      · rfl
      · simp [Fragment.chars]
  rw [textOf, each]

mutual

/-- A plain spelling. -/
def Element.spelling : Element → Spelling
  | .mk name lead children =>
    .pair ⟨⟨none, name⟩, [], ⟨[], nofun⟩⟩ (fragmentsOf lead.toList) (Element.spellings children)
      ⟨[], nofun⟩

def Element.spellings : List (Element × String) → List (Spelling × List Fragment)
  | [] => []
  | (e, tail) :: children => (e.spelling, fragmentsOf tail.toList) :: Element.spellings children

end

mutual

theorem Element.element_spelling (e : Element) : e.spelling.element = e := by
  cases e with
  | mk name lead children =>
    rw [Element.spelling, Spelling.element, textOf_fragmentsOf, String.ofList_toList,
      Element.elements_spellings children]

theorem Element.elements_spellings (children : List (Element × String)) :
    Spelling.elements (Element.spellings children) = children := by
  cases children with
  | nil => rfl
  | cons child children =>
    obtain ⟨e, tail⟩ := child
    rw [Element.spellings, Spelling.elements, Element.element_spelling e, textOf_fragmentsOf,
      String.ofList_toList, Element.elements_spellings children]

end

end ServiceClient.Markup
