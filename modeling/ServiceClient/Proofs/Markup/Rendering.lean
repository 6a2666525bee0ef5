import ServiceClient.Markup.Event
import ServiceClient.Codec.Encode
import ServiceClient.Proofs.Number.Integer
import ServiceClient.Proofs.Text.Utf8
import Mathlib.Data.List.Nodup

/-! The document that a table of parameters describes. Every segment of a dotted name is an element
within the one before it, elements stand in the order in which they first appear, and a number tells
elements of the same name apart. A tree without repetition is what its own table describes. -/

namespace ServiceClient.Markup
open ServiceClient.Wire

/-- An element by its name and number. -/
abbrev Key := String × Nat

/-- What an element holds: a text, or else elements. -/
inductive Node where
  | mk (text : Option String) (children : List (Key × Node))

def escapeChar : Char → List Char
  | '&' => "&amp;".toList
  | '<' => "&lt;".toList
  | '>' => "&gt;".toList
  | c => [c]

def escape (s : String) : String :=
  String.ofList (s.toList.flatMap escapeChar)

/-- A numeric segment is the number of the element before it. The path is innermost first. -/
def addSegment (path : List Key) (segment : List Char) : List Key :=
  match Number.natural? segment, path with
  | some n, (tag, _) :: outer => (tag, n) :: outer
  | some _, [] => []
  | none, path => (String.ofList segment, 0) :: path

/-- The elements, from outside in, that a dotted name leads through. -/
def elementPath (name : String) : List Key :=
  ((name.toList.splitOn '.').foldl addSegment []).reverse

def setChild (key : Key) (f : Node → Node) : List (Key × Node) → List (Key × Node)
  | [] => [(key, f (.mk none []))]
  | (k, n) :: children =>
    if k = key then (k, f n) :: children else (k, n) :: setChild key f children

/-- Bytes of names: of letters, digits, `-`, `.`, `_` and all beyond ASCII, but none that means
something in tags. -/
def isNameByte (b : UInt8) : Bool :=
  65 ≤ b || (48 ≤ b && b ≤ 57) || b == 45 || b == 46

/-- Names of elements, without a prefix. -/
def isName (name : String) : Bool :=
  name != "" && (Text.utf8 name).all isNameByte

/-- Names of elements, with nothing but letters. -/
def isTag (tag : String) : Bool :=
  tag != "" && tag.toList.all Char.isAlpha

namespace Node

def put (value : String) : List Key → Node → Node
  | [], .mk _ children => .mk (some value) children
  | key :: path, .mk text children => .mk text (setChild key (put value path) children)

/-- The tree that a table describes. -/
def ofTable (t : Table) : Node :=
  t.foldl (fun n entry => n.put entry.2 (elementPath entry.1)) (.mk none [])

mutual

/-- The texts of a tree with the paths to them. -/
def entries : Node → List (List Key × String)
  | .mk (some s) _ => [([], s)]
  | .mk none children => childEntries children

def childEntries : List (Key × Node) → List (List Key × String)
  | [] => []
  | (key, n) :: children => n.entries.map (fun e => (key :: e.1, e.2)) ++ childEntries children

end

mutual

def render : Node → String
  | .mk (some s) _ => escape s
  | .mk none children => renderChildren children

def renderChildren : List (Key × Node) → String
  | [] => ""
  | ((tag, _), n) :: children =>
    "<" ++ tag ++ ">" ++ n.render ++ "</" ++ tag ++ ">" ++ renderChildren children

end

mutual

def events : Node → List Event
  | .mk (some s) _ => if s = "" then [] else [.text s]
  | .mk none children => childEvents children

def childEvents : List (Key × Node) → List Event
  | [] => []
  | ((tag, _), n) :: children =>
    .opening tag :: n.events ++ .closing tag :: childEvents children

end

/-- Texts stand only at the ends, no element is empty or there twice, and names are of letters. -/
inductive Canonical : Node → Prop
  | text (s : String) : Canonical (.mk (some s) [])
  | parent {children : List (Key × Node)} (some : children ≠ [])
      (named : ∀ child ∈ children, isTag child.1.1)
      (distinct : (children.map (·.1)).Nodup) (inner : ∀ child ∈ children, Canonical child.2) :
      Canonical (.mk none children)

end Node

/-- The table rendered as the content of an element `root`. -/
def document (root : String) (t : Table) : String :=
  "<" ++ root ++ ">" ++ (Node.ofTable t).render ++ "</" ++ root ++ ">"

theorem toNat_of_isAlpha {c : Char} (letter : c.isAlpha) : 65 ≤ c.toNat ∧ c.toNat ≤ 122 := by
  have ranges : (decide ('A'.val ≤ c.val ∧ c.val ≤ 'Z'.val) ||
      (decide ('a'.val ≤ c.val) && decide (c.val ≤ 'z'.val))) = true := letter
  simp only [Bool.or_eq_true, Bool.and_eq_true, decide_eq_true_eq, UInt32.le_iff_toNat_le] at ranges
  rcases ranges with ⟨low, high⟩ | ⟨low, high⟩
  · exact ⟨low, Nat.le_trans high (by decide)⟩
  · exact ⟨Nat.le_trans (by decide) low, high⟩

theorem toList_joinPath {name : String} (filled : name ≠ "") (segment : String) :
    (joinPath name segment).toList = name.toList ++ '.' :: segment.toList := by
  simp [joinPath, String.isEmpty_iff, filled]

theorem ne_empty_of_isTag {tag : String} (named : isTag tag) : tag ≠ "" := by
  rintro rfl
  simp [isTag] at named

theorem isName_of_isTag {tag : String} (named : isTag tag) : isName tag := by
  simp only [isTag, Bool.and_eq_true, List.all_eq_true] at named
  obtain ⟨filled, letters⟩ := named
  simp only [isName, Bool.and_eq_true, List.all_eq_true]
  refine ⟨filled, fun b mem => ?_⟩
  obtain ⟨c, here, inside⟩ := List.mem_flatMap.mp mem
  have range := toNat_of_isAlpha (letters c here)
  have value : c.val.toNat = c.toNat := rfl
  have byte : String.utf8EncodeChar c = [UInt8.ofNat c.toNat] := by
    simp only [String.utf8EncodeChar, value]
    rw [if_pos (by omega)]
  rw [byte, List.mem_singleton] at inside
  have high : 65 ≤ b := by
    rw [inside, UInt8.le_iff_toNat_le, Text.Utf8.toNat_byte (by omega)]
    exact range.1
  simp [isNameByte, high]

section Paths
variable {tag : String}

theorem addSegment_tag (named : isTag tag) (path : List Key) :
    addSegment path tag.toList = (tag, 0) :: path := by
  have letters : Number.natural? tag.toList = none := by
    simp only [isTag, Bool.and_eq_true, bne_iff_ne, List.all_eq_true] at named
    obtain ⟨c, s, spelt⟩ := List.exists_cons_of_ne_nil
      (fun none => named.1 (String.toList_eq_nil_iff.mp none))
    have letter := toNat_of_isAlpha (named.2 c (spelt ▸ List.mem_cons_self))
    have other : c.isDigit = false := by
      rw [Bool.eq_false_iff, ne_eq, Char.isDigit_iff_toNat]
      rintro ⟨-, high⟩
      exact absurd (Nat.le_trans letter.1 high) (by decide)
    simp [Number.natural?, spelt, other]
  simp [addSegment, letters]

theorem addSegment_index (n : Nat) (tag : String) (m : Nat) (path : List Key) :
    addSegment ((tag, m) :: path) (Codec.indexText n).toList = (tag, n) :: path := by
  have digits : Number.natural? (Codec.indexText n).toList = some n := by
    rw [Codec.indexText, Nat.toString_eq_repr, Nat.toList_repr, Number.natural?_toDigits]
  simp [addSegment, digits]

theorem dot_not_mem_tag (named : isTag tag) : '.' ∉ tag.toList := by
  simp only [isTag, Bool.and_eq_true, List.all_eq_true] at named
  intro mem
  exact absurd (named.2 _ mem) (by decide)

theorem dot_not_mem_index (n : Nat) : '.' ∉ (Codec.indexText n).toList := by
  rw [Codec.indexText, Nat.toString_eq_repr, Nat.toList_repr]
  intro mem
  exact absurd (Number.isDigit_of_mem_toDigits mem) (by decide)

theorem elementPath_tag (named : isTag tag) : elementPath tag = [(tag, 0)] := by
  rw [elementPath, List.splitOn_eq_singleton (dot_not_mem_tag named), List.foldl_cons,
    List.foldl_nil, addSegment_tag named]
  rfl

/-- A further segment goes on from where the name leads. -/
theorem elementPath_joinPath {name segment : String} (filled : name ≠ "")
    (plain : '.' ∉ segment.toList) :
    elementPath (joinPath name segment) =
      (addSegment (elementPath name).reverse segment.toList).reverse := by
  rw [elementPath, toList_joinPath filled, List.splitOn_append_cons_self,
    List.splitOn_eq_singleton plain, List.foldl_append, elementPath, List.reverse_reverse]
  rfl

theorem elementPath_index (named : isTag tag) (n : Nat) :
    elementPath (joinPath tag (Codec.indexText n)) = [(tag, n)] := by
  rw [elementPath_joinPath (ne_empty_of_isTag named) (dot_not_mem_index n), elementPath_tag named]
  simp [addSegment_index]

theorem elementPath_part (named : isTag tag) (n : Nat) {part : String} (inner : isTag part) :
    elementPath (joinPath (joinPath tag (Codec.indexText n)) part) = [(tag, n), (part, 0)] := by
  have filled : joinPath tag (Codec.indexText n) ≠ "" := by
    intro empty
    have spelt := toList_joinPath (ne_empty_of_isTag named) (Codec.indexText n)
    simp [empty] at spelt
  rw [elementPath_joinPath filled (dot_not_mem_tag inner), elementPath_index named]
  simp [addSegment_tag inner]

end Paths

theorem setChild_setChild (key : Key) (f g : Node → Node) (children : List (Key × Node)) :
    setChild key f (setChild key g children) = setChild key (f ∘ g) children := by
  induction children with
  | nil => simp [setChild]
  | cons child children ih =>
    obtain ⟨k, n⟩ := child
    by_cases same : k = key <;> simp [setChild, same, ih]

theorem setChild_of_not_mem {key : Key} (f : Node → Node) {children : List (Key × Node)}
    (fresh : key ∉ children.map (·.1)) :
    setChild key f children = children ++ [(key, f (.mk none []))] := by
  induction children with
  | nil => rfl
  | cons child children ih =>
    obtain ⟨k, n⟩ := child
    simp only [List.map_cons, List.mem_cons, not_or] at fresh
    simp [setChild, Ne.symm fresh.1, ih fresh.2]

namespace Node

/-- Texts put into a node one after the other. -/
def putAll (entries : List (List Key × String)) (n : Node) : Node :=
  entries.foldl (fun n e => n.put e.2 e.1) n

theorem putAll_append (es fs : List (List Key × String)) (n : Node) :
    putAll (es ++ fs) n = putAll fs (putAll es n) :=
  List.foldl_append

/-- Texts put below one child are put into that child. -/
theorem putAll_below (key : Key) {es : List (List Key × String)} (some : es ≠ [])
    (text : Option String) (children : List (Key × Node)) :
    putAll (es.map fun e => (key :: e.1, e.2)) (.mk text children) =
      .mk text (setChild key (putAll es) children) := by
  induction es generalizing children with
  | nil => exact absurd rfl some
  | cons e es ih =>
    have first : putAll ((e :: es).map fun e => (key :: e.1, e.2)) (.mk text children) =
        putAll (es.map fun e => (key :: e.1, e.2))
          (.mk text (setChild key (fun n => n.put e.2 e.1) children)) := rfl
    rw [first]
    cases es with
    | nil => rfl
    | cons e' es =>
      rw [ih (List.cons_ne_nil e' es), setChild_setChild]
      rfl

theorem Canonical.entries_ne_nil {n : Node} (h : n.Canonical) : n.entries ≠ [] := by
  induction h with
  | text s => simp [entries]
  | @parent children some _ _ _ ih =>
    cases children with
    | nil => exact absurd rfl some
    | cons child children =>
      rw [entries, childEntries]
      simp [ih child List.mem_cons_self]

/-- The entries of a canonical tree build it up again. -/
theorem Canonical.putAll_entries {n : Node} (h : n.Canonical) :
    putAll n.entries (.mk none []) = n := by
  induction h with
  | text s => rfl
  | @parent children some named distinct inner ih =>
    suffices step : ∀ done : List (Key × Node), ((done ++ children).map (·.1)).Nodup →
        putAll (childEntries children) (.mk none done) = .mk none (done ++ children) by
      simpa [entries] using step [] distinct
    clear some named distinct
    induction children with
    | nil => simp [childEntries, putAll]
    | cons child children next =>
      obtain ⟨key, n⟩ := child
      intro done distinct
      have fresh : key ∉ done.map (·.1) := by
        rw [List.map_append, List.nodup_append] at distinct
        exact fun mem => distinct.2.2 key mem key (by simp) rfl
      have built : putAll n.entries (.mk none []) = n := ih (key, n) List.mem_cons_self
      rw [childEntries, putAll_append,
        putAll_below key (inner (key, n) List.mem_cons_self).entries_ne_nil,
        setChild_of_not_mem _ fresh, built,
        next (fun c mem => inner c (List.mem_cons_of_mem _ mem))
          (fun c mem => ih c (List.mem_cons_of_mem _ mem)) _ (by simpa using distinct)]
      simp

/-- A canonical tree is what its entries describe under names that lead there. -/
theorem Canonical.ofTable_eq {n : Node} (h : n.Canonical) {t : Table}
    (paths : t.map (fun entry => (elementPath entry.1, entry.2)) = n.entries) :
    ofTable t = n := by
  rw [← h.putAll_entries, ← paths, putAll, List.foldl_map, ofTable]

theorem exists_child_of_childEntries {children : List (Key × Node)} {e : List Key × String}
    (mem : e ∈ childEntries children) :
    ∃ child ∈ children, ∃ path, e.1 = child.1 :: path := by
  induction children with
  | nil => simp [childEntries] at mem
  | cons child children ih =>
    obtain ⟨key, n⟩ := child
    rw [childEntries, List.mem_append] at mem
    rcases mem with mem | mem
    · obtain ⟨inner, -, rfl⟩ := List.mem_map.mp mem
      exact ⟨_, List.mem_cons_self, _, rfl⟩
    · obtain ⟨child, here, path, starts⟩ := ih mem
      exact ⟨child, List.mem_cons_of_mem _ here, path, starts⟩

/-- No two texts of a canonical tree have the same path. -/
theorem Canonical.paths_nodup {n : Node} (h : n.Canonical) : (n.entries.map (·.1)).Nodup := by
  induction h with
  | text s => simp [entries]
  | @parent children some named distinct inner ih =>
    rw [entries]
    clear some named inner
    induction children with
    | nil => simp [childEntries]
    | cons child children next =>
      obtain ⟨key, n⟩ := child
      rw [List.map_cons, List.nodup_cons] at distinct
      obtain ⟨fresh, distinct⟩ := distinct
      have own : (n.entries.map fun e => key :: e.1).Nodup := by
        have inner : (n.entries.map (·.1)).Nodup := ih (key, n) List.mem_cons_self
        have below := inner.map (List.cons_injective : Function.Injective (key :: ·))
        rwa [List.map_map] at below
      have rest := next distinct fun c mem => ih c (List.mem_cons_of_mem _ mem)
      rw [childEntries, List.map_append, List.map_map]
      refine List.nodup_append.mpr ⟨own, rest, ?_⟩
      rintro path mem _ other rfl
      obtain ⟨e, -, rfl⟩ := List.mem_map.mp mem
      obtain ⟨e', here, same⟩ := List.mem_map.mp other
      obtain ⟨child, there, path, starts⟩ := exists_child_of_childEntries here
      rw [same] at starts
      have shared : key = child.1 := (List.cons.inj starts).1
      have named : child.1 ∈ children.map (·.1) := List.mem_map_of_mem there
      exact fresh (shared ▸ named)

end Node
end ServiceClient.Markup
