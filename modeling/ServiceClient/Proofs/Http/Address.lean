import ServiceClient.Http.Address
import ServiceClient.Proofs.Data.Sequence
import ServiceClient.Proofs.Text.Percent
import ServiceClient.Proofs.Wire.Template
import Mathlib.Data.List.Forall2
import Mathlib.Data.List.Induction

/-! Addresses made of an origin and the segments of a path. A segment keeps its place in the path of
the address, unless it is a dot segment or has characters in it that end one. -/

namespace ServiceClient.Text

theorem splitAt_cons_part {c : Char} {part : List Char} (plain : c ∉ part) (rest : List Char) :
    splitAt c (part ++ c :: rest) = part :: splitAt c rest := by
  induction part with
  | nil => rw [List.nil_append, splitAt, if_pos rfl]
  | cons d part ih =>
    rw [List.mem_cons, not_or] at plain
    rw [List.cons_append, splitAt, if_neg (Ne.symm plain.1), ih plain.2]

theorem splitAt_part {c : Char} {part : List Char} (plain : c ∉ part) :
    splitAt c part = [part] := by
  induction part with
  | nil => rfl
  | cons d part ih =>
    rw [List.mem_cons, not_or] at plain
    rw [splitAt, if_neg (Ne.symm plain.1), ih plain.2]

end ServiceClient.Text

namespace ServiceClient.Http
open ServiceClient.Text ServiceClient.Wire.Template

/-- Splitting a path at its slashes gives its segments. -/
theorem splitAt_joined {s : List Char} {segments : List (List Char)} (plain : '/' ∉ s)
    (each : ∀ s ∈ segments, '/' ∉ s) : splitAt '/' (s ++ joined segments) = s :: segments := by
  induction segments generalizing s with
  | nil => rw [joined, List.flatMap_nil, List.append_nil, splitAt_part plain]
  | cons next segments ih =>
    obtain ⟨first, others⟩ := List.forall_mem_cons.mp each
    have front : joined (next :: segments) = '/' :: (next ++ joined segments) := rfl
    rw [front, splitAt_cons_part plain, ih first others]

/-- Characters that end a segment of a path. -/
def endsSegment (c : Char) : Bool :=
  isSlash c || c == '?' || c == '#'

def isBlank (c : Char) : Bool :=
  c ≤ ' '

/-- Without line breaks and tabs. -/
def unbroken (s : List Char) : List Char :=
  s.filter fun c => c != '\t' && c != '\n' && c != '\r'

/-- Without the blanks at the end. -/
def trimBlanks (s : List Char) : List Char :=
  (s.reverse.dropWhile isBlank).reverse

theorem clean_eq (s : List Char) : clean s = unbroken (trimBlanks (s.dropWhile isBlank)) := rfl

section Cleaning

theorem trimBlanks_append_cons {c : Char} (solid : isBlank c = false) (s rest : List Char) :
    trimBlanks (s ++ c :: rest) = s ++ c :: trimBlanks rest := by
  have whole : (s ++ c :: rest).reverse = rest.reverse ++ c :: s.reverse := by simp
  rw [trimBlanks, whole, List.dropWhile_append, List.dropWhile_cons_of_neg (by simp [solid])]
  split
  · rename_i nothing
    simp [trimBlanks, List.isEmpty_iff.mp nothing]
  · simp [trimBlanks]

theorem unbroken_append (s t : List Char) : unbroken (s ++ t) = unbroken s ++ unbroken t :=
  List.filter_append ..

theorem unbroken_cons {c : Char} (solid : isBlank c = false) (s : List Char) :
    unbroken (c :: s) = c :: unbroken s := by
  refine List.filter_cons_of_pos ?_
  simp only [Bool.and_eq_true, bne_iff_ne]
  refine ⟨⟨?_, ?_⟩, ?_⟩ <;> rintro rfl <;> exact absurd solid (by decide)

theorem unbroken_eq_self {s : List Char} (solid : ∀ c ∈ s, isBlank c = false) : unbroken s = s := by
  induction s with
  | nil => rfl
  | cons c s ih =>
    obtain ⟨first, others⟩ := List.forall_mem_cons.mp solid
    rw [unbroken_cons first, ih others]

theorem unbroken_joined (segments : List (List Char)) :
    unbroken (joined segments) = joined (segments.map unbroken) := by
  induction segments with
  | nil => rfl
  | cons s segments ih =>
    have front : joined (s :: segments) = '/' :: (s ++ joined segments) := rfl
    rw [front, unbroken_cons (by decide), unbroken_append, ih]
    rfl

theorem trimBlanks_eq_self {s : List Char} (solid : ∀ c ∈ s, isBlank c = false) :
    trimBlanks s = s := by
  cases s using List.reverseRecOn with
  | nil => rfl
  | append_singleton s c =>
    rw [trimBlanks_append_cons (solid c (by simp))]
    rfl

/-- What becomes of a segment: the last one may also lose the blanks at its end. -/
def Cleaned (s t : List Char) : Prop :=
  t = unbroken s ∨ t = unbroken (trimBlanks s)

theorem Cleaned.eq {s t : List Char} (cleaned : Cleaned s t)
    (solid : ∀ c ∈ s, isBlank c = false) : t = s := by
  rcases cleaned with rfl | rfl
  · exact unbroken_eq_self solid
  · rw [trimBlanks_eq_self solid, unbroken_eq_self solid]

theorem Cleaned.mem {s t : List Char} (cleaned : Cleaned s t) {c : Char} (mem : c ∈ t) : c ∈ s := by
  rcases cleaned with rfl | rfl
  · exact List.mem_of_mem_filter mem
  · have inside := List.mem_of_mem_filter mem
    rw [trimBlanks, List.mem_reverse] at inside
    exact List.mem_reverse.mp ((List.dropWhile_suffix _).subset inside)

/-- What follows the path of an address: a query, a fragment or nothing. -/
def IsTail (tail : List Char) : Prop :=
  ∀ c ∈ tail.head?, c = '?' ∨ c = '#'

theorem clean_joined {base : List Char} (filled : base ≠ []) (solid : ∀ c ∈ base, isBlank c = false)
    {segments : List (List Char)} (listed : segments ≠ []) {tail : List Char}
    (follows : IsTail tail) :
    ∃ segments' tail', clean (base ++ joined segments ++ tail) = base ++ joined segments' ++ tail' ∧
      List.Forall₂ Cleaned segments segments' ∧ IsTail tail' ∧ (tail = [] → tail' = []) := by
  have start : ∀ rest, (base ++ rest).dropWhile isBlank = base ++ rest := by
    intro rest
    obtain ⟨c, base, rfl⟩ := List.exists_cons_of_ne_nil filled
    rw [List.cons_append, List.dropWhile_cons_of_neg (by simp [solid c List.mem_cons_self])]
  rw [clean_eq, List.append_assoc, start]
  cases tail with
  | cons c rest =>
    have mark := follows c rfl
    have solidMark : isBlank c = false := by rcases mark with rfl | rfl <;> decide
    refine ⟨segments.map unbroken, c :: unbroken (trimBlanks rest), ?_, ?_, ?_, nofun⟩
    · rw [← List.append_assoc, trimBlanks_append_cons solidMark, unbroken_append, unbroken_append,
        unbroken_eq_self solid, unbroken_joined, unbroken_cons solidMark]
    · exact List.forall₂_map_right_iff.mpr (List.forall₂_same.mpr fun s _ => .inl rfl)
    · rintro _ ⟨⟩
      exact mark
  | nil =>
    obtain ⟨front, last, rfl⟩ := List.eq_nil_or_concat' segments |>.resolve_left listed
    refine ⟨front.map unbroken ++ [unbroken (trimBlanks last)], [], ?_, ?_, nofun, fun _ => rfl⟩
    · have split : base ++ (joined (front ++ [last]) ++ []) =
          (base ++ joined front) ++ '/' :: last := by
        simp [joined]
      rw [split, trimBlanks_append_cons (by decide), unbroken_append, unbroken_append,
        unbroken_eq_self solid, unbroken_joined, unbroken_cons (by decide)]
      simp [joined]
    · have first : List.Forall₂ Cleaned front (front.map unbroken) :=
        List.forall₂_map_right_iff.mpr (List.forall₂_same.mpr fun s _ => .inl rfl)
      exact List.rel_append first (.cons (.inr rfl) .nil)

end Cleaning

section Paths
variable {segments : List (List Char)}

theorem isSlash_slash : isSlash '/' = true := rfl

theorem exists_joined (listed : segments ≠ []) : ∃ rest, joined segments = '/' :: rest := by
  obtain ⟨s, segments, rfl⟩ := List.exists_cons_of_ne_nil listed
  exact ⟨_, rfl⟩

/-- A path has no mark in it that ends it. -/
theorem mark_not_mem_joined (whole : ∀ s ∈ segments, ∀ c ∈ s, endsSegment c = false) {mark : Char}
    (ends : endsSegment mark) (other : mark ≠ '/') : mark ∉ joined segments := by
  intro mem
  obtain ⟨s, here, inside⟩ := List.mem_flatMap.mp mem
  rcases List.mem_cons.mp inside with rfl | inside
  · exact other rfl
  · rw [whole s here mark inside] at ends
    cases ends

theorem pathSegments_joined (listed : segments ≠ [])
    (whole : ∀ s ∈ segments, ∀ c ∈ s, endsSegment c = false) :
    pathSegments (joined segments) = walk [] segments := by
  obtain ⟨s, segments, rfl⟩ := List.exists_cons_of_ne_nil listed
  have plain : ∀ t ∈ s :: segments, ∀ c ∈ t, isSlash c = false := by
    intro t mem c here
    have apart := whole t mem c here
    simp only [endsSegment, Bool.or_eq_false_iff] at apart
    exact apart.1.1
  have noSlash : ∀ t ∈ s :: segments, '/' ∉ t := fun t mem here =>
    absurd (plain t mem '/' here) (by simp [isSlash_slash])
  have same : ∀ c ∈ s ++ joined segments, (if isSlash c then '/' else c) = c := by
    intro c mem
    by_cases slash : c = '/'
    · rw [slash, if_pos isSlash_slash]
    · rw [if_neg]
      rw [List.mem_append] at mem
      rcases mem with mem | mem
      · simp [plain s List.mem_cons_self c mem]
      · obtain ⟨t, here, inside⟩ := List.mem_flatMap.mp mem
        rcases List.mem_cons.mp inside with rfl | inside
        · exact absurd rfl slash
        · simp [plain t (List.mem_cons_of_mem _ here) c inside]
  have front : joined (s :: segments) = '/' :: (s ++ joined segments) := rfl
  obtain ⟨first, others⟩ := List.forall_mem_cons.mp noSlash
  have starts : ('/' :: (s ++ joined segments)).head?.any isSlash = true := rfl
  rw [pathSegments, front, if_pos starts, List.drop_one, List.tail_cons, splitSlashes,
    List.map_congr_left same, List.map_id', splitAt_joined first others]

/-- The path of an address is what stands before its query and its fragment. -/
theorem takeWhile_path (whole : ∀ s ∈ segments, ∀ c ∈ s, endsSegment c = false) {tail : List Char}
    (follows : IsTail tail) :
    ((joined segments ++ tail).takeWhile (· != '#')).takeWhile (· != '?') = joined segments := by
  have plain : ∀ mark, endsSegment mark → mark ≠ '/' →
      ∀ c ∈ joined segments, (c != mark) = true := fun mark ends other c mem =>
    bne_iff_ne.mpr fun same => mark_not_mem_joined whole ends other (same ▸ mem)
  rw [List.takeWhile_append_of_pos (plain '#' rfl (by decide)),
    List.takeWhile_append_of_pos (plain '?' rfl (by decide))]
  cases tail with
  | nil => simp
  | cons c rest => rcases follows c rfl with rfl | rfl <;> simp

end Paths

/-- A scheme and an authority, with no path after them. -/
structure Origin where
  scheme : List Char
  slashes : List Char
  authority : List Char
  scheme_ends : ':' ∉ scheme
  only_slashes : ∀ c ∈ slashes, isSlash c
  given : authority ≠ []
  whole : ∀ c ∈ authority, endsSegment c = false
  solid : ∀ c ∈ scheme ++ ':' :: (slashes ++ authority), isBlank c = false

namespace Origin

def text (o : Origin) : List Char :=
  o.scheme ++ ':' :: (o.slashes ++ o.authority)

/-- The authority of the origin, if it is one for HTTP. -/
def authority? (o : Origin) : Option Authority :=
  (schemes.lookup (String.ofList o.scheme).toLower).bind fun own =>
    Authority.ofText? own o.authority

/-- What is taken for the query of an address. -/
def queryOf (rest : List Char) : Option (List Char) :=
  let shown := rest.takeWhile (· != '#')
  (if shown.contains '?' then some ((shown.dropWhile (· != '?')).drop 1) else none).map
    (percentChars keepInQuery)

theorem queryOf_joined {segments : List (List Char)}
    (whole : ∀ s ∈ segments, ∀ c ∈ s, endsSegment c = false) :
    queryOf (joined segments) = none := by
  have absent : '?' ∉ joined segments := mark_not_mem_joined whole rfl (by decide)
  have shown : '?' ∉ (joined segments).takeWhile (· != '#') := fun mem =>
    absent ((List.takeWhile_prefix _).subset mem)
  simp [queryOf, shown]

section Parts
variable (o : Origin) (rest : List Char)

theorem text_append :
    o.text ++ rest = o.scheme ++ ':' :: (o.slashes ++ (o.authority ++ rest)) := by
  simp [text]

theorem bne_colon_of_mem_scheme : ∀ c ∈ o.scheme, (c != ':') = true := fun _ mem =>
  bne_iff_ne.mpr fun same => o.scheme_ends (same ▸ mem)

theorem takeWhile_text : (o.text ++ rest).takeWhile (· != ':') = o.scheme := by
  rw [text_append, List.takeWhile_append_of_pos o.bne_colon_of_mem_scheme,
    List.takeWhile_cons_of_neg (by simp), List.append_nil]

theorem contains_colon : (o.text ++ rest).contains ':' := by
  simp [text]

/-- Behind the scheme and its slashes stands the authority. -/
theorem dropWhile_text :
    (((o.text ++ rest).dropWhile (· != ':')).drop 1).dropWhile isSlash = o.authority ++ rest := by
  obtain ⟨c, authority, same⟩ := List.exists_cons_of_ne_nil o.given
  have solid : isSlash c = false := by
    have own := o.whole c (same ▸ List.mem_cons_self)
    simp only [endsSegment, Bool.or_eq_false_iff] at own
    exact own.1.1
  rw [text_append, List.dropWhile_append_of_pos o.bne_colon_of_mem_scheme,
    List.dropWhile_cons_of_neg (by simp), List.drop_one, List.tail_cons,
    List.dropWhile_append_of_pos o.only_slashes, same, List.cons_append,
    List.dropWhile_cons_of_neg (by simp [solid])]

theorem not_endsSegment_of_mem_authority : ∀ c ∈ o.authority, (!endsSegment c) = true :=
  fun c mem => by rw [o.whole c mem, Bool.not_false]

/-- The authority ends where the path begins. -/
theorem takeWhile_authority :
    (o.authority ++ '/' :: rest).takeWhile (!endsSegment ·) = o.authority := by
  rw [List.takeWhile_append_of_pos o.not_endsSegment_of_mem_authority,
    List.takeWhile_cons_of_neg (by decide), List.append_nil]

theorem dropWhile_authority :
    (o.authority ++ '/' :: rest).dropWhile (!endsSegment ·) = '/' :: rest := by
  rw [List.dropWhile_append_of_pos o.not_endsSegment_of_mem_authority,
    List.dropWhile_cons_of_neg (by decide)]

end Parts

theorem ofText?_of_clean (o : Origin) {segments : List (List Char)} (listed : segments ≠ [])
    (whole : ∀ s ∈ segments, ∀ c ∈ s, endsSegment c = false) {tail : List Char}
    (follows : IsTail tail) {s : String}
    (cleaned : clean s.toList = o.text ++ joined segments ++ tail) :
    Address.ofText? s = o.authority?.map fun authority =>
      { authority, segments := walk [] segments, query := queryOf (joined segments ++ tail) } := by
  obtain ⟨path, starts⟩ := exists_joined listed
  have ends : (fun c : Char => !(isSlash c || c == '?' || c == '#')) = (!endsSegment ·) := rfl
  have front : joined segments ++ tail = '/' :: (path ++ tail) := by rw [starts, List.cons_append]
  have taken : (o.authority ++ (joined segments ++ tail)).takeWhile (!endsSegment ·) =
      o.authority := by rw [front, takeWhile_authority]
  have left : (o.authority ++ (joined segments ++ tail)).dropWhile (!endsSegment ·) =
      joined segments ++ tail := by rw [front, dropWhile_authority]
  rw [List.append_assoc] at cleaned
  simp only [Address.ofText?, cleaned, takeWhile_text, contains_colon, if_true, dropWhile_text,
    ends, taken, left, takeWhile_path whole follows, pathSegments_joined listed whole, authority?,
    queryOf]
  cases schemes.lookup (String.ofList o.scheme).toLower with
  | none => rfl
  | some own => cases made : Authority.ofText? own o.authority <;> simp [made]

/-- An address is the authority of its origin with the segments of its path. Which path it is does
not matter to whether there is such an address. -/
theorem ofText?_joined (o : Origin) {segments : List (List Char)} (listed : segments ≠ [])
    (whole : ∀ s ∈ segments, ∀ c ∈ s, endsSegment c = false) {tail : List Char}
    (follows : IsTail tail) :
    ∃ segments' query, List.Forall₂ Cleaned segments segments' ∧ (tail = [] → query = none) ∧
      Address.ofText? (String.ofList (o.text ++ joined segments ++ tail)) =
        o.authority?.map fun authority => { authority, segments := walk [] segments', query } := by
  have filled : o.text ≠ [] := by simp [text]
  obtain ⟨segments', tail', cleaned, each, follows', bare⟩ :=
    clean_joined filled o.solid listed follows
  have listed' : segments' ≠ [] := by
    rintro rfl
    cases each
    exact listed rfl
  have whole' : ∀ s ∈ segments', ∀ c ∈ s, endsSegment c = false := by
    intro t mem c here
    obtain ⟨s, mem', own⟩ := Sequence.exists_mem_left each mem
    exact whole s mem' c (own.mem here)
  refine ⟨segments', queryOf (joined segments' ++ tail'), each, fun none => ?_, ?_⟩
  · rw [bare none, List.append_nil, queryOf_joined whole']
  · exact o.ofText?_of_clean listed' whole' follows' (by rw [String.toList_ofList, cleaned])

end Origin

/-- A segment that names the directory itself or the one above. -/
def IsDots (s : List Char) : Prop :=
  dotted s = ['.'] ∨ dotted s = ['.', '.']

section Walk
variable (walked rest : List (List Char))

/-- Segments other than dots stay where they are. -/
theorem walk_append {front : List (List Char)} (plain : ∀ s ∈ front, ¬IsDots s) :
    walk walked (front ++ rest) = walk (walked ++ front.map (percentChars keepInPath)) rest := by
  induction front generalizing walked with
  | nil => simp
  | cons s front ih =>
    obtain ⟨first, others⟩ := List.forall_mem_cons.mp plain
    rw [IsDots, not_or] at first
    rw [List.cons_append, walk, if_neg first.2, if_neg first.1, ih _ others, List.map_cons,
      List.append_assoc, List.singleton_append]

theorem walk_eq {segments : List (List Char)} (plain : ∀ s ∈ segments, ¬IsDots s) :
    walk walked segments = walked ++ segments.map (percentChars keepInPath) := by
  have all := walk_append walked [] plain
  rwa [List.append_nil, walk] at all

theorem walk_dot (last : List (List Char)) (ends : last = if rest.isEmpty then [[]] else []) :
    walk walked (['.'] :: rest) = walk (walked ++ last) rest := by
  rw [walk, if_neg (by decide), if_pos (by decide), ends]

theorem walk_dots (last : List (List Char)) (ends : last = if rest.isEmpty then [[]] else []) :
    walk walked (['.', '.'] :: rest) = walk (walked.dropLast ++ last) rest := by
  rw [walk, if_pos (by decide), ends]

/-- Where a path leads consists of segments of the path, and of empty ones. -/
theorem mem_walk {walked segments : List (List Char)} {s : List Char}
    (mem : s ∈ walk walked segments) :
    s ∈ walked ∨ s = [] ∨ ∃ u ∈ segments, s = percentChars keepInPath u := by
  induction segments generalizing walked with
  | nil => exact .inl mem
  | cons u segments ih =>
    have step : ∀ next : List (List Char),
        (∀ w ∈ next, w ∈ walked ∨ w = [] ∨ w = percentChars keepInPath u) →
        s ∈ walk next segments →
        s ∈ walked ∨ s = [] ∨ ∃ w ∈ u :: segments, s = percentChars keepInPath w := by
      intro next only here
      rcases ih here with here | empty | ⟨w, inside, same⟩
      · exact (only s here).imp_right (.imp_right fun same => ⟨u, List.mem_cons_self, same⟩)
      · exact .inr (.inl empty)
      · exact .inr (.inr ⟨w, List.mem_cons_of_mem _ inside, same⟩)
    have last : ∀ w ∈ (if segments.isEmpty then [[]] else [] : List (List Char)), w = [] := by
      intro w here
      split at here
      · exact List.mem_singleton.mp here
      · cases here
    rw [walk] at mem
    split at mem
    · refine step _ (fun w here => ?_) mem
      rcases List.mem_append.mp here with here | here
      · exact .inl ((List.dropLast_sublist _).subset here)
      · exact .inr (.inl (last w here))
    split at mem
    · refine step _ (fun w here => ?_) mem
      rcases List.mem_append.mp here with here | here
      · exact .inl here
      · exact .inr (.inl (last w here))
    · refine step _ (fun w here => ?_) mem
      rcases List.mem_append.mp here with here | here
      · exact .inl here
      · exact .inr (.inr (List.mem_singleton.mp here))

end Walk

section EncodedSegments

theorem unreserved_plain {c : Char} (kept : unreserved c) :
    isBlank c = false ∧ endsSegment c = false ∧ keepInPath c := by
  have all : ∀ n < 0x80, unreserved (Char.ofNat n) → isBlank (Char.ofNat n) = false ∧
      endsSegment (Char.ofNat n) = false ∧ keepInPath (Char.ofNat n) := by
    decide +kernel
  have own := all c.toNat (keeps_unreserved c kept).1
  rw [Char.ofNat_toNat] at own
  exact own kept

/-- An encoded value has nothing in it that ends a segment or is encoded again. -/
theorem plain_of_mem {v : List Char} {c : Char} (mem : c ∈ percentChars unreserved v) :
    isBlank c = false ∧ endsSegment c = false ∧ keepInPath c := by
  rcases unreserved_of_mem mem with kept | rfl
  · exact unreserved_plain kept
  · decide

theorem dotted_cons {c : Char} (other : c ≠ '%') (s : List Char) :
    dotted (c :: s) = c :: dotted s := by
  rw [dotted]
  rintro _ _ rfl
  exact absurd rfl other

theorem dotted_percentByte {b : UInt8} (other : b ≠ 0x2E) (s : List Char) :
    dotted (percentByte b ++ s) = percentByte b ++ dotted s := by
  have all : ∀ n < 256, n ≠ 0x2E → upperHex (n / 16) ≠ '%' ∧ upperHex (n % 16) ≠ '%' ∧
      (upperHex (n / 16) = '2' → upperHex (n % 16) ≠ 'e' ∧ upperHex (n % 16) ≠ 'E') := by
    decide +kernel
  have value : b.toNat ≠ 0x2E := fun same => other (UInt8.toNat_inj.mp same)
  obtain ⟨high, low, dot⟩ := all b.toNat b.toNat_lt value
  simp only [percentByte, List.cons_append, List.nil_append]
  by_cases two : upperHex (b.toNat / 16) = '2'
  · obtain ⟨small, large⟩ := dot two
    rw [two, dotted, if_neg (by simp [small, large])]
  · have apart : dotted ('%' :: upperHex (b.toNat / 16) :: upperHex (b.toNat % 16) :: s) =
        '%' :: dotted (upperHex (b.toNat / 16) :: upperHex (b.toNat % 16) :: s) := by
      rw [dotted]
      rintro e t - same
      exact two (List.cons.inj same).1
    rw [apart, dotted_cons high, dotted_cons low]

/-- Dots are kept, so that no other value is taken for dots. -/
theorem dotted_percentChars (v : List Char) :
    dotted (percentChars unreserved v) = percentChars unreserved v := by
  have encoded : ∀ (bytes : List UInt8) (s : List Char), (∀ b ∈ bytes, b ≠ 0x2E) →
      dotted (bytes.flatMap percentByte ++ s) = bytes.flatMap percentByte ++ dotted s := by
    intro bytes s other
    induction bytes with
    | nil => rfl
    | cons b bytes ih =>
      obtain ⟨first, others⟩ := List.forall_mem_cons.mp other
      rw [List.flatMap_cons, List.append_assoc, dotted_percentByte first, ih others,
        List.append_assoc]
  induction v with
  | nil => rfl
  | cons c v ih =>
    rw [percentChars] at ih
    rw [percentChars, List.flatMap_cons]
    split
    · rename_i kept
      rw [List.singleton_append, dotted_cons (keeps_unreserved c kept).2, ih]
    · rename_i escaped
      refine (encoded _ _ fun b mem same => ?_).trans (by rw [ih])
      subst same
      have value := Utf8.eq_of_mem_utf8EncodeChar mem (by decide)
      obtain rfl : c = '.' := Char.toNat_inj.mp value.symm
      exact escaped rfl

theorem isDots_percentChars {v : String} :
    IsDots (percentChars unreserved v.toList) ↔ v = "." ∨ v = ".." := by
  have told : ∀ w : String, percentChars unreserved w.toList = w.toList →
      (percentChars unreserved v.toList = w.toList ↔ v = w) := by
    intro w kept
    constructor
    · intro same
      have back := percentDecode?_percentChars keeps_unreserved v
      rw [same, ← kept, percentDecode?_percentChars keeps_unreserved w] at back
      exact (Option.some.inj back).symm
    · rintro rfl
      exact kept
  rw [IsDots, dotted_percentChars]
  exact or_congr (told "." (by decide)) (told ".." (by decide))

end EncodedSegments

/-- The segments of the path of a request target. -/
def targetSegments (target : String) : List (List Char) :=
  (splitAt '/' (target.toList.takeWhile (· != '?'))).drop 1

theorem keepInPath_plain {s : List Char} (whole : ∀ c ∈ s, endsSegment c = false) :
    ∀ c ∈ percentChars keepInPath s, c ≠ '/' ∧ c ≠ '?' := by
  intro c mem
  have digits : ∀ n < 16, upperHex n ≠ '/' ∧ upperHex n ≠ '?' := by decide +kernel
  rcases mem_percentChars mem with ⟨here, -⟩ | rfl | ⟨n, small, rfl⟩
  · have own := whole c here
    constructor <;> rintro rfl <;> cases own
  · decide
  · exact digits n small

theorem targetSegments_target {a : Address}
    (plain : ∀ s ∈ a.segments, ∀ c ∈ s, c ≠ '/' ∧ c ≠ '?') :
    targetSegments a.target = a.segments := by
  have path : ∀ c ∈ joined a.segments, (c != '?') = true := by
    intro c mem
    obtain ⟨s, here, inside⟩ := List.mem_flatMap.mp mem
    rcases List.mem_cons.mp inside with rfl | inside
    · rfl
    · exact bne_iff_ne.mpr (plain s here c inside).2
  have shown : a.target.toList.takeWhile (· != '?') = joined a.segments := by
    rw [Address.target, String.toList_ofList]
    refine (List.takeWhile_append_of_pos path).trans ?_
    cases a.query <;> simp
  have split : splitAt '/' ([] ++ joined a.segments) = [] :: a.segments :=
    splitAt_joined List.not_mem_nil fun s mem here => (plain s mem '/' here).1 rfl
  rw [targetSegments, shown, ← List.nil_append (joined a.segments), split, List.drop_one,
    List.tail_cons]

end ServiceClient.Http
