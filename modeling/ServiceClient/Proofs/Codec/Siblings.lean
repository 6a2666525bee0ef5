import ServiceClient.Proofs.Codec.Locality
import ServiceClient.Proofs.Markup.Children
import ServiceClient.Proofs.Wire.Scalar

/-! Siblings are read one at a time. A list or map takes all that follow each other at once, and yet
the slots are filled as if every one of them were a collection of its own: collections met later are
folded into what is there, item after item. -/

namespace ServiceClient.Codec
open ServiceClient.Markup ServiceClient.Schema ServiceClient.Wire

namespace Value

/-- To store `u` and then `w` is to store them as one. -/
def Joins (u w : Value) : Prop :=
  ∀ slot, mergeInto slot (u.merge w) = mergeInto (mergeInto slot u) w

theorem joins_list (xs ys : List Value) : Joins (list xs) (list ys) := by
  rintro (_ | v)
  · rfl
  · cases v with
    | list => simp [mergeInto, merge]
    | scalar | map | struct => rfl

section Maps
variable {xs ys : List (Scalar × Value)}

theorem merge_ofEntries (sortable : SortedMap.Sortable Scalar.lt ys) :
    (ofEntries xs).merge (ofEntries ys) = ofEntries (xs ++ ys) := by
  simp only [ofEntries, merge, SortedMap.merge_ofFirst Scalar.strict_lt sortable,
    SortedMap.ofFirst_append]

theorem joins_ofEntries (sortable : SortedMap.Sortable Scalar.lt (xs ++ ys)) :
    Joins (ofEntries xs) (ofEntries ys) := by
  rintro (_ | v)
  · rfl
  · rw [merge_ofEntries sortable.back]
    cases v with
    | map entries =>
      simp only [ofEntries, mergeInto, merge, SortedMap.merge_append,
        SortedMap.merge_ofFirst Scalar.strict_lt sortable,
        SortedMap.merge_ofFirst Scalar.strict_lt sortable.front,
        SortedMap.merge_ofFirst Scalar.strict_lt sortable.back]
    | scalar | list | struct => rfl

end Maps
end Value

namespace Slots

theorem member?_store (wire wire' : String) (v : Value) (slots : Slots) :
    (store wire v slots).member? wire' = slots.member? wire' := by
  induction slots with
  | nil => rfl
  | cons s slots ih =>
    obtain ⟨f, slot⟩ := s
    unfold store
    split
    · by_cases part : f.isPart wire' <;> simp [member?, part]
    · by_cases part : f.isPart wire'
      · simp [member?, part]
      · simpa [member?, part] using ih

theorem store_store {wire : String} {f : FieldRead} {u w : Value} (joins : u.Joins w)
    {slots : Slots} (found : slots.member? wire = some f) (collects : f.collection.isSome) :
    store wire (u.merge w) slots = store wire w (store wire u slots) := by
  induction slots with
  | nil => rfl
  | cons s slots ih =>
    obtain ⟨g, slot⟩ := s
    by_cases part : g.isPart wire
    · obtain rfl : g = f := by simpa [member?, part] using found
      simp [store, part, FieldRead.store, collects, joins slot]
    · have found : member? slots wire = some f := by simpa [member?, part] using found
      simp [store, part, ih found]

end Slots

namespace Reading

theorem peekStart_again {events rest : List Event} {next : Option String}
    (peeked : peekStart events = (.ok next, rest)) : peekStart rest = (.ok next, rest) := by
  obtain ⟨rfl, -⟩ := peekStart_eq_ok peeked
  rw [← peeked, peekStart, peekStart, skipBlank_skipBlank]

/-- The reading takes one element, and nothing but that element counts. -/
structure ReadsElement {α : Type} (tag : String) (x : Reading α) : Prop where
  takes : TakesElement tag x
  detached : Detached x

namespace ReadsElement
variable {α β : Type} {x : Reading α} {f : α → Reading β} {tag : String}

theorem andThen (reads : ReadsElement tag x) (later : ∀ a, Stays (f a)) :
    ReadsElement tag (x >>= f) :=
  ⟨reads.takes.bind later, reads.detached.andThen later⟩

theorem yields_child {c : Child} (reads : ReadsElement c.name x) {rest left : List Event} {a : α} :
    Yields x (c.events ++ rest) a left ↔ left = rest ∧ Yields x c.events a [] := by
  constructor
  · intro yields
    obtain ⟨used, whole, element⟩ := reads.takes yields
    obtain ⟨rfl, rfl⟩ := c.isElement.append_inj element whole
    have alone := reads.detached yields []
    rw [List.append_nil] at alone
    exact ⟨rfl, alone⟩
  · rintro ⟨rfl, alone⟩
    rw [← List.append_nil c.events] at alone
    exact reads.detached alone left

end ReadsElement

section Collecting
variable {β : Type} {one : Reading β} {wrap : List β → Value} {tag : String}

theorem forall_mem_of_yields_gather {Good : β → Prop}
    (good : ∀ ⦃events b left⦄, Yields one events b left → Good b) {limit : Nat}
    {events left : List Event} {bs : List β}
    (yields : Yields (gather tag one limit) events bs left) : ∀ b ∈ bs, Good b := by
  induction limit generalizing events bs with
  | zero => exact absurd yields not_yields_missing
  | succ limit ih =>
    obtain ⟨next, rest, -, yields⟩ := yields_bind.mp yields
    split at yields
    · obtain ⟨b, mid, read, yields⟩ := yields_bind.mp yields
      obtain ⟨bs, mid', read', yields⟩ := yields_bind.mp yields
      obtain ⟨rfl, rfl⟩ := yields_pure.mp yields
      exact List.forall_mem_cons.mpr ⟨good read, ih read'⟩
    · obtain ⟨rfl, -⟩ := yields_pure.mp yields
      nofun

theorem yields_gatherAll_peeked (progress : Progresses tag one) {events rest left : List Event}
    {next : Option String} {bs : List β} (peeked : peekStart events = (.ok next, rest)) :
    Yields (gatherAll tag one) events bs left ↔ Yields (gatherAll tag one) rest bs left := by
  rw [yields_gatherAll_iff progress, yields_gatherAll_iff progress, peeked, peekStart_again peeked]

/-- What is gathered makes the same collection item by item. -/
def Joinable (tag : String) (one : Reading β) (wrap : List β → Value) : Prop :=
  ∀ ⦃events b mid rest bs left⦄, Yields one events b mid → Yields (gatherAll tag one) rest bs left →
    wrap (b :: bs) = (wrap [b]).merge (wrap bs) ∧ (wrap [b]).Joins (wrap bs)

/-- A collection that starts here is the one of its first item, merged with what a run that goes on
behind it is gathered to. -/
theorem yields_collection (progress : Progresses tag one) (joinable : Joinable tag one wrap)
    {body left : List Event} {v : Value} :
    Yields (do return wrap (← gatherAll tag one)) (.opening tag :: body) v left ↔
      ∃ u mid next rest, Yields (do return wrap [← one]) (.opening tag :: body) u mid ∧
        peekStart mid = (.ok next, rest) ∧
        if next = some tag then
          ∃ w, Yields (do return wrap (← gatherAll tag one)) rest w left ∧ v = u.merge w
        else v = u ∧ left = rest := by
  constructor
  · intro yields
    obtain ⟨bs, mid', whole, done⟩ := yields_bind.mp yields
    obtain ⟨rfl, rfl⟩ := yields_pure.mp done
    obtain ⟨next, rest, peeked, whole⟩ := (yields_gatherAll_iff progress).mp whole
    obtain ⟨rfl, rfl⟩ : some tag = next ∧ Event.opening tag :: body = rest := by
      simpa [peekStart, skipBlank_opening] using peeked
    rw [if_pos rfl] at whole
    obtain ⟨b, mid, items, first, others, rfl⟩ := whole
    obtain ⟨next, rest, peeked', onwards⟩ := (yields_gatherAll_iff progress).mp others
    refine ⟨wrap [b], mid, next, rest, yields_bind.mpr ⟨b, mid, first, rfl⟩, peeked', ?_⟩
    split
    · refine ⟨wrap items, yields_bind.mpr ⟨items, mid', ?_, rfl⟩, (joinable first others).1⟩
      exact (yields_gatherAll_peeked progress peeked').mp others
    · rename_i stops
      rw [if_neg stops] at onwards
      obtain ⟨rfl, rfl⟩ := onwards
      exact ⟨rfl, rfl⟩
  · rintro ⟨u, mid, next, rest, start, peeked, onwards⟩
    obtain ⟨b, mid', first, done⟩ := yields_bind.mp start
    obtain ⟨rfl, rfl⟩ := yields_pure.mp done
    suffices run : ∃ items, Yields (gatherAll tag one) mid' items left ∧ v = wrap (b :: items) by
      obtain ⟨items, others, rfl⟩ := run
      refine yields_bind.mpr ⟨b :: items, left, (yields_gatherAll_iff progress).mpr ?_, rfl⟩
      refine ⟨some tag, .opening tag :: body, rfl, ?_⟩
      rw [if_pos rfl]
      exact ⟨b, mid', items, first, others, rfl⟩
    split at onwards
    · obtain ⟨w, run, rfl⟩ := onwards
      obtain ⟨items, rest', others, done⟩ := yields_bind.mp run
      obtain ⟨rfl, rfl⟩ := yields_pure.mp done
      exact ⟨items, (yields_gatherAll_peeked progress peeked).mpr others,
        (joinable first others).1.symm⟩
    · rename_i stops
      obtain ⟨rfl, rfl⟩ := onwards
      refine ⟨[], (yields_gatherAll_iff progress).mpr ⟨next, left, peeked, ?_⟩, rfl⟩
      rw [if_neg stops]
      exact ⟨rfl, rfl⟩

theorem joinable_list (tag : String) (one : Reading Value) : Joinable tag one .list :=
  fun _ b _ _ bs _ _ _ => ⟨rfl, Value.joins_list [b] bs⟩

/-- Entries are joined where their keys can be put in order. -/
theorem joinable_map {one : Reading (Scalar × Value)} (progress : Progresses tag one)
    (texts : ∀ ⦃events e left⦄, Yields one events e left → ∃ s, e.1 = .text s) :
    Joinable tag one .ofEntries := by
  intro events e mid rest es left first others
  obtain ⟨limit, others⟩ := (yields_gatherAll_iff_gather progress).mp others
  have keys : ∀ e' ∈ [e] ++ es, ∃ s, e'.1 = .text s :=
    List.forall_mem_cons.mpr ⟨texts first, forall_mem_of_yields_gather texts others⟩
  have sortable : SortedMap.Sortable Scalar.lt ([e] ++ es) := by
    intro a here b there
    obtain ⟨a', mem, rfl⟩ := List.mem_map.mp here
    obtain ⟨b', mem', rfl⟩ := List.mem_map.mp there
    obtain ⟨s, text⟩ := keys a' mem
    obtain ⟨t, text'⟩ := keys b' mem'
    rw [text, text']
    exact Scalar.comparable_text s t
  have merged : (Value.ofEntries [e]).merge (Value.ofEntries es) = .ofEntries ([e] ++ es) :=
    Value.merge_ofEntries sortable.back
  exact ⟨merged.symm, Value.joins_ofEntries sortable⟩

end Collecting
end Reading

namespace Module
open Reading
variable {m : Module} {headers : Headers} {depth : Nat}

/-- Reads the children of a structure into its slots. -/
def readFields (m : Module) (headers : Headers) (depth : Nat) (slots : Slots) : Reading Slots :=
  allChildren (readChild (m.readXml headers (depth + 1))) slots

/-- Reads what follows of a member. -/
def readPart (m : Module) (headers : Headers) (depth : Nat) (wire : String) (f : FieldRead) :
    Reading Value :=
  match f.source with
  | .body (some element) => within wire (m.readXml headers (depth + 1) f.type element)
  | _ => m.readXml headers (depth + 1) f.type wire

section Loop
variable {wire : String} {f : FieldRead} {slots a : Slots} {events rest body left : List Event}

theorem readChild_of_member? (found : slots.member? wire = some f) :
    readChild (m.readXml headers (depth + 1)) wire slots = (do
      let v ← m.readPart headers depth wire f
      pure (slots.store wire v)) := by
  rw [readChild, found]
  dsimp only
  rw [readPart]
  rcases f.source with kind | (_ | element) <;> rfl

theorem yields_readFields_iff :
    Yields (m.readFields headers depth slots) events a left ↔
      ∃ next rest, peekStart events = (.ok next, rest) ∧
        match next with
        | none => a = slots ∧ left = rest
        | some name => ∃ slots' mid,
            Yields (readChild (m.readXml headers (depth + 1)) name slots) rest slots' mid ∧
              Yields (m.readFields headers depth slots') mid a left :=
  yields_allChildren_iff fun _ _ => progresses_readChild (consumes_readXml _) (progresses_readXml _)

theorem yields_readFields_peeked {next : Option String}
    (peeked : peekStart events = (.ok next, rest)) :
    Yields (m.readFields headers depth slots) events a left ↔
      Yields (m.readFields headers depth slots) rest a left := by
  rw [yields_readFields_iff, yields_readFields_iff, peeked, peekStart_again peeked]

theorem yields_readFields_opening :
    Yields (m.readFields headers depth slots) (.opening wire :: body) a left ↔
      ∃ slots' mid, Yields (readChild (m.readXml headers (depth + 1)) wire slots)
          (.opening wire :: body) slots' mid ∧
        Yields (m.readFields headers depth slots') mid a left := by
  have peeked : peekStart (.opening wire :: body) = (.ok (some wire), .opening wire :: body) := rfl
  rw [yields_readFields_iff, peeked]
  constructor
  · rintro ⟨_, _, ⟨⟩, onwards⟩
    exact onwards
  · exact fun onwards => ⟨_, _, rfl, onwards⟩

theorem yields_readFields_closing {name : String} :
    Yields (m.readFields headers depth slots) (.closing name :: body) a left ↔
      a = slots ∧ left = .closing name :: body := by
  have peeked : peekStart (.closing name :: body) = (.ok none, .closing name :: body) := rfl
  rw [yields_readFields_iff, peeked]
  constructor
  · rintro ⟨_, _, ⟨⟩, done⟩
    exact done
  · exact fun done => ⟨_, _, rfl, done⟩

theorem yields_readFields_blank {s : String} (white : Text.blankText s) :
    Yields (m.readFields headers depth slots) (.text s :: rest) a left ↔
      Yields (m.readFields headers depth slots) rest a left := by
  have same : peekStart (.text s :: rest) = peekStart rest := by
    have blank : (Event.text s).isBlank := white
    rw [peekStart, peekStart, skipBlank, List.dropWhile_cons_of_pos blank, skipBlank]
  rw [yields_readFields_iff, yields_readFields_iff, same]

theorem yields_readFields_member (found : slots.member? wire = some f) :
    Yields (m.readFields headers depth slots) (.opening wire :: body) a left ↔
      ∃ v mid, Yields (m.readPart headers depth wire f) (.opening wire :: body) v mid ∧
        Yields (m.readFields headers depth (slots.store wire v)) mid a left := by
  rw [yields_readFields_opening, readChild_of_member? found]
  constructor
  · rintro ⟨slots', mid, child, onwards⟩
    obtain ⟨v, mid, read, done⟩ := yields_bind.mp child
    obtain ⟨rfl, rfl⟩ := yields_pure.mp done
    exact ⟨v, mid, read, onwards⟩
  · rintro ⟨v, mid, read, onwards⟩
    exact ⟨_, mid, yields_bind.mpr ⟨v, mid, read, rfl⟩, onwards⟩

/-- The loop may read a collection item by item. Where another item follows, it comes back to the
same member, and folds the rest of the run into what the item has left in the slot. -/
theorem yields_readFields_collection {β : Type} {one : Reading β} {wrap : List β → Value}
    (found : slots.member? wire = some f) (collects : f.collection.isSome)
    (reads : m.readPart headers depth wire f = do return wrap (← gatherAll wire one))
    (progress : Progresses wire one) (joinable : Joinable wire one wrap) :
    Yields (m.readFields headers depth slots) (.opening wire :: body) a left ↔
      ∃ u mid, Yields (do return wrap [← one]) (.opening wire :: body) u mid ∧
        Yields (m.readFields headers depth (slots.store wire u)) mid a left := by
  have found' : ∀ u, (slots.store wire u).member? wire = some f := fun u => by
    rw [Slots.member?_store, found]
  have joins : ∀ {events u mid rest w left}, Yields (do return wrap [← one]) events u mid →
      Yields (do return wrap (← gatherAll wire one)) rest w left →
      slots.store wire (u.merge w) = (slots.store wire u).store wire w := by
    intro events u mid rest w left first run
    obtain ⟨b, mid', item, done⟩ := yields_bind.mp first
    obtain ⟨rfl, -⟩ := yields_pure.mp done
    obtain ⟨bs, left', items, done⟩ := yields_bind.mp run
    obtain ⟨rfl, -⟩ := yields_pure.mp done
    exact Slots.store_store (joinable item items).2 found collects
  rw [yields_readFields_member found, reads]
  constructor
  · rintro ⟨v, mid', read, onwards⟩
    obtain ⟨u, mid, next, rest, first, peeked, run⟩ := (yields_collection progress joinable).mp read
    refine ⟨u, mid, first, (yields_readFields_peeked peeked).mpr ?_⟩
    split at run
    · rename_i same
      obtain ⟨w, run, rfl⟩ := run
      obtain ⟨body', rfl, -⟩ := peekStart_eq_some (same ▸ peeked)
      rw [yields_readFields_member (found' u), reads]
      rw [joins first run] at onwards
      exact ⟨w, mid', run, onwards⟩
    · obtain ⟨rfl, rfl⟩ := run
      exact onwards
  · rintro ⟨u, mid, first, onwards⟩
    obtain ⟨next, rest, peeked, -⟩ := yields_readFields_iff.mp onwards
    rw [yields_readFields_peeked peeked] at onwards
    by_cases same : next = some wire
    · obtain ⟨body', rfl, -⟩ := peekStart_eq_some (same ▸ peeked)
      rw [yields_readFields_member (found' u), reads] at onwards
      obtain ⟨w, mid', run, onwards⟩ := onwards
      refine ⟨u.merge w, mid', (yields_collection progress joinable).mpr ?_, ?_⟩
      · refine ⟨u, mid, next, _, first, peeked, ?_⟩
        rw [if_pos same]
        exact ⟨w, run, rfl⟩
      · rwa [joins first run]
    · refine ⟨u, rest, (yields_collection progress joinable).mpr ?_, onwards⟩
      refine ⟨u, mid, next, rest, first, peeked, ?_⟩
      rw [if_neg same]
      exact ⟨rfl, rfl⟩

end Loop

/-- Reads one item of a list or map, as a collection of its own, and what is not a collection as it
is. -/
def readItem (m : Module) (headers : Headers) (depth : Nat) (type tag : String) : Reading Value :=
  match m.decoderBody? type with
  | some (.list item) => do return .list [← m.readXml headers depth item tag]
  | some (.map key value keyWire valueWire) =>
    match m.scalarKind? key with
    | none => missing
    | some kind => do
      return .ofEntries [← within tag do
        let k ← Reading.scalar kind keyWire
        let v ← m.readXml headers depth value valueWire
        pure (k, v)]
  | _ => m.readXml headers (depth + 1) type tag

/-- Reads what a single element adds to a member. -/
def readPiece (m : Module) (headers : Headers) (depth : Nat) (wire : String) (f : FieldRead) :
    Reading Value :=
  match f.source with
  | .body (some element) => within wire (m.readXml headers (depth + 1) f.type element)
  | _ => m.readItem headers depth f.type wire

/-- Whether what a member is read from may be taken apart into elements: its values are merged if it
is a list or a map, and then the items are elements of their own, under keys that are text. -/
def isSeparable (m : Module) (f : FieldRead) : Bool :=
  match f.source with
  | .header _ | .body (some _) => true
  | .body none =>
    match m.decoderBody? f.type with
    | none => false
    | some (.scalar _) | some (.struct _ _) => true
    | some (.list item) => f.collection.isSome && m.isSingle item
    | some (.map key _ _ _) => f.collection.isSome && m.scalarKind? key == some .string

theorem isPart_source {f : FieldRead} {wire : String} (part : f.isPart wire) :
    ∃ element, f.source = .body element := by
  cases source : f.source with
  | header kind => simp [FieldRead.isPart, FieldRead.isHeader, source] at part
  | body element => exact ⟨element, rfl⟩

theorem texts_entry {depth : Nat} {value keyWire valueWire tag : String} {events left : List Event}
    {e : Scalar × Value} (yields : Yields (within tag do
      let k ← scalar .string keyWire
      let v ← m.readXml headers depth value valueWire
      pure (k, v)) events e left) : ∃ s, e.1 = .text s := by
  obtain ⟨body, rest, -, read, -⟩ := yields_within.mp yields
  obtain ⟨k, mid, key, read⟩ := yields_bind.mp read
  obtain ⟨v, mid', -, done⟩ := yields_bind.mp read
  obtain ⟨rfl, -⟩ := yields_pure.mp done
  obtain ⟨inner, rest', -, text, -⟩ := yields_within.mp key
  obtain ⟨s, mid'', -, text⟩ := yields_bind.mp text
  obtain ⟨⟨⟩, -⟩ := yields_ofOutcome.mp text
  exact ⟨s, rfl⟩

/-- The loop goes from element to element of a member. -/
theorem yields_readFields_piece {slots a : Slots} {wire : String} {f : FieldRead}
    (found : slots.member? wire = some f) (separable : m.isSeparable f) {body left : List Event} :
    Yields (m.readFields headers depth slots) (.opening wire :: body) a left ↔
      ∃ u mid, Yields (m.readPiece headers depth wire f) (.opening wire :: body) u mid ∧
        Yields (m.readFields headers depth (slots.store wire u)) mid a left := by
  obtain ⟨-, part⟩ := Slots.mem_of_member? found
  obtain ⟨element, source⟩ := isPart_source part
  cases element with
  | some element =>
    rw [yields_readFields_member found]
    simp only [readPiece, readPart, source]
  | none =>
    simp only [isSeparable, source] at separable
    split at separable
    · cases separable
    · rename_i kind type
      rw [yields_readFields_member found]
      simp only [readPiece, readPart, source, readItem, type]
    · rename_i shape fields type
      rw [yields_readFields_member found]
      simp only [readPiece, readPart, source, readItem, type]
    · rename_i item type
      rw [Bool.and_eq_true] at separable
      have reads : m.readPart headers depth wire f =
          do return .list (← gatherAll wire (m.readXml headers depth item wire)) := by
        simp only [readPart, source, readXml, type]
      rw [yields_readFields_collection found separable.1 reads
        (progresses_readXml depth item wire) (joinable_list wire _)]
      simp only [readPiece, source, readItem, type]
    · rename_i key value keyWire valueWire type
      simp only [Bool.and_eq_true, beq_iff_eq] at separable
      have reads : m.readPart headers depth wire f =
          do return .ofEntries (← gatherAll wire (within wire do
            let k ← scalar .string keyWire
            let v ← m.readXml headers depth value valueWire
            pure (k, v))) := by
        simp only [readPart, source, readXml, type, separable.2]
      rw [yields_readFields_collection found separable.1 reads (progresses_within consumes_entry)
        (joinable_map (progresses_within consumes_entry) fun _ _ _ => texts_entry)]
      simp only [readPiece, source, readItem, type, separable.2]

theorem readsElement_readXml {type : String} (single : m.isSingle type) (depth : Nat)
    (tag : String) : ReadsElement tag (m.readXml headers depth type tag) :=
  ⟨takesElement_readXml single depth tag, detached_readXml single depth tag⟩

theorem readsElement_readPiece {depth : Nat} {wire : String} {f : FieldRead}
    (separable : m.isSeparable f) (part : f.isPart wire) :
    ReadsElement wire (m.readPiece headers depth wire f) := by
  obtain ⟨_ | element, source⟩ := isPart_source part
  · simp only [isSeparable, source] at separable
    simp only [readPiece, source, readItem]
    split at separable
    · cases separable
    · rename_i kind type
      rw [type]
      exact readsElement_readXml (by rw [isSingle, type]) _ wire
    · rename_i shape fields type
      rw [type]
      exact readsElement_readXml (by rw [isSingle, type]) _ wire
    · rename_i item type
      rw [type]
      rw [Bool.and_eq_true] at separable
      exact (readsElement_readXml separable.2 _ wire).andThen fun _ => stays_pure _
    · rename_i key value keyWire valueWire type
      simp only [Bool.and_eq_true, beq_iff_eq] at separable
      simp only [type, separable.2]
      exact ReadsElement.andThen ⟨takesElement_within consumes_entry,
        detached_entry (local_readXml depth) _ _ _ _ wire⟩ fun _ => stays_pure _
  · simp only [readPiece, source]
    exact ⟨takesElement_within (consumes_readXml _ _ _),
      detached_within (local_readXml _ _ _) (advances_readXml _ _ _)⟩

/-- What one child makes of the slots of a structure. -/
def Absorbs (m : Module) (headers : Headers) (depth : Nat) (c : Child) (slots slots' : Slots) :
    Prop :=
  match slots.member? c.name with
  | none => slots' = slots
  | some f => ∃ v, Yields (m.readPiece headers depth c.name f) c.events v [] ∧
      slots' = slots.store c.name v

theorem absorbs_keeps {c : Child} {slots slots' : Slots}
    (absorbs : m.Absorbs headers depth c slots slots') : slots'.map (·.1) = slots.map (·.1) := by
  unfold Absorbs at absorbs
  split at absorbs
  · rw [absorbs]
  · obtain ⟨v, -, rfl⟩ := absorbs
    exact Slots.map_store _ _ _

/-- The loop goes from child to child, and what it makes of one is told by that child alone. -/
theorem yields_readFields_child {slots a : Slots}
    (separable : ∀ f ∈ slots.map (·.1), m.isSeparable f) (c : Child) {rest left : List Event} :
    Yields (m.readFields headers depth slots) (c.events ++ rest) a left ↔
      ∃ next, m.Absorbs headers depth c slots next ∧
        Yields (m.readFields headers depth next) rest a left := by
  cases found : slots.member? c.name with
  | none =>
    rw [c.events_append, yields_readFields_opening, readChild, found, ← c.events_append]
    simp only [Absorbs, found, exists_eq_left]
    constructor
    · rintro ⟨slots', mid, skips, onwards⟩
      obtain ⟨u, mid, skipped, done⟩ := yields_bind.mp skips
      obtain ⟨rfl, rfl⟩ := yields_pure.mp done
      obtain ⟨-, rfl⟩ : u = () ∧ rest = mid := by
        simpa [c.skipElement_events rest] using yields_pull.mp skipped
      exact onwards
    · exact fun onwards => ⟨slots, rest, yields_bind.mpr
        ⟨(), rest, yields_pull.mpr (c.skipElement_events rest), rfl⟩, onwards⟩
  | some f =>
    obtain ⟨mem, part⟩ := Slots.mem_of_member? found
    have reads : ReadsElement c.name (m.readPiece headers depth c.name f) :=
      readsElement_readPiece (separable f mem) part
    rw [c.events_append, yields_readFields_piece found (separable f mem), ← c.events_append]
    simp only [reads.yields_child, Absorbs, found]
    constructor
    · rintro ⟨v, mid, ⟨rfl, read⟩, onwards⟩
      exact ⟨_, ⟨v, read, rfl⟩, onwards⟩
    · rintro ⟨_, ⟨v, read, rfl⟩, onwards⟩
      exact ⟨v, rest, ⟨rfl, read⟩, onwards⟩

end Module
end ServiceClient.Codec
