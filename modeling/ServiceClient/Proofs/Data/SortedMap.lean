import ServiceClient.Data.SortedMap
import Mathlib.Data.List.Basic
import Mathlib.Data.List.Induction

/-! Maps made of entries. Entries in order are their own map. Where the keys can be put in order,
the map has them in order and holds the first or the last value met for each, and merging with a map
is adding the entries that it was made of. Maps in order that hold the same are the same. -/

namespace ServiceClient.SortedMap
variable {α β : Type} {lt : α → α → Bool}

theorem insertNew_last {m : List (α × β)} {k : α} (v : β)
    (after : ∀ e ∈ m, lt e.1 k = true ∧ lt k e.1 = false) :
    insertNew lt k v m = m ++ [(k, v)] := by
  induction m with
  | nil => rfl
  | cons e m ih =>
    obtain ⟨low, high⟩ := after e List.mem_cons_self
    simp [insertNew, low, high, ih fun e mem => after e (List.mem_cons_of_mem _ mem)]

theorem ofFirst_ascending {entries : List (α × β)}
    (ascending : entries.Pairwise fun a b => lt a.1 b.1 = true ∧ lt b.1 a.1 = false) :
    ofFirst lt entries = entries := by
  suffices step : ∀ done : List (α × β), (∀ a ∈ done, ∀ b ∈ entries,
      lt a.1 b.1 = true ∧ lt b.1 a.1 = false) →
      entries.foldl (fun m e => insertNew lt e.1 e.2 m) done = done ++ entries by
    exact step [] (by simp)
  induction entries with
  | nil => simp
  | cons e entries ih =>
    rw [List.pairwise_cons] at ascending
    intro done before
    rw [List.foldl_cons, insertNew_last e.2 fun a mem => before a mem e List.mem_cons_self,
      ih ascending.2, List.append_assoc, List.singleton_append]
    intro a mem b here
    rcases List.mem_append.mp mem with mem | mem
    · exact before a mem b (List.mem_cons_of_mem _ here)
    · rw [List.mem_singleton.mp mem]
      exact ascending.1 b here

/-- A strict order, though perhaps not of all pairs of keys. -/
structure Strict (lt : α → α → Bool) : Prop where
  irrefl : ∀ a, lt a a = false
  trans : ∀ a b c, lt a b = true → lt b c = true → lt a c = true

theorem Strict.asymm (strict : Strict lt) {a b : α} (less : lt a b = true) : lt b a = false := by
  by_contra more
  have back := strict.trans a b a less (by simpa using more)
  rw [strict.irrefl] at back
  cases back

/-- Keys of which none comes first are the same. -/
def Comparable (lt : α → α → Bool) (a b : α) : Prop :=
  lt a b = false → lt b a = false → a = b

/-- A key comes before another, behind it, or is the same. -/
theorem Comparable.cases {a b : α} (comparable : Comparable lt a b) :
    lt a b = true ∨ (lt a b = false ∧ lt b a = true) ∨ (a = b ∧ lt a b = false) := by
  cases low : lt a b with
  | true => exact .inl rfl
  | false =>
    cases high : lt b a with
    | true => exact .inr (.inl ⟨rfl, rfl⟩)
    | false => exact .inr (.inr ⟨comparable low high, rfl⟩)

def keys (m : List (α × β)) : List α :=
  m.map (·.1)

@[simp] theorem keys_nil : keys ([] : List (α × β)) = [] := rfl

@[simp] theorem keys_cons (e : α × β) (m : List (α × β)) : keys (e :: m) = e.1 :: keys m := rfl

/-- The keys stand in order, without repetition. -/
def Ascending (lt : α → α → Bool) (m : List (α × β)) : Prop :=
  (keys m).Pairwise fun a b => lt a b = true

section Insertion
variable {k : α} {m : List (α × β)} (v : β)

theorem keys_insertNew (comparable : ∀ q ∈ keys m, Comparable lt k q) :
    keys (insertNew lt k v m) = keys (insert lt k v m) := by
  induction m with
  | nil => rfl
  | cons e m ih =>
    obtain ⟨k', v'⟩ := e
    rw [keys_cons, List.forall_mem_cons] at comparable
    rcases comparable.1.cases with low | ⟨low, high⟩ | ⟨rfl, low⟩
    · simp [insertNew, insert, low]
    · simp [insertNew, insert, low, high, ih comparable.2]
    · simp [insertNew, insert, low]

theorem mem_keys_insert (comparable : ∀ q ∈ keys m, Comparable lt k q) {q : α} :
    q ∈ keys (insert lt k v m) ↔ q = k ∨ q ∈ keys m := by
  induction m with
  | nil => simp [insert]
  | cons e m ih =>
    obtain ⟨k', v'⟩ := e
    rw [keys_cons, List.forall_mem_cons] at comparable
    rcases comparable.1.cases with low | ⟨low, high⟩ | ⟨rfl, low⟩
    · simp [insert, low]
    · simp only [insert, low, high, Bool.false_eq_true, if_false, if_true, keys_cons,
        List.mem_cons, ih comparable.2]
      exact or_left_comm
    · simp [insert, low]

theorem ascending_insert (strict : Strict lt) (comparable : ∀ q ∈ keys m, Comparable lt k q)
    (ascending : Ascending lt m) : Ascending lt (insert lt k v m) := by
  induction m with
  | nil => simp [Ascending, insert]
  | cons e m ih =>
    obtain ⟨k', v'⟩ := e
    rw [keys_cons, List.forall_mem_cons] at comparable
    rw [Ascending, keys_cons, List.pairwise_cons] at ascending
    obtain ⟨first, rest⟩ := ascending
    rcases comparable.1.cases with low | ⟨low, high⟩ | ⟨rfl, low⟩
    · rw [insert, if_pos low]
      simp only [Ascending, keys_cons, List.pairwise_cons, List.forall_mem_cons]
      exact ⟨⟨low, fun q mem => strict.trans k k' q low (first q mem)⟩, first, rest⟩
    · rw [insert, low, if_neg Bool.false_ne_true, if_pos high, Ascending, keys_cons,
        List.pairwise_cons]
      refine ⟨fun q mem => ?_, ih comparable.2 rest⟩
      rcases (mem_keys_insert v comparable.2).mp mem with rfl | mem
      · exact high
      · exact first q mem
    · rw [insert, low, if_neg Bool.false_ne_true, if_neg Bool.false_ne_true]
      exact List.pairwise_cons.mpr ⟨first, rest⟩

theorem lookup_insert [BEq α] [LawfulBEq α] (strict : Strict lt)
    (comparable : ∀ q ∈ keys m, Comparable lt k q) (q : α) :
    (insert lt k v m).lookup q = if q == k then some v else m.lookup q := by
  induction m with
  | nil =>
    rw [insert, List.lookup_cons]
    by_cases same : q == k <;> simp [same]
  | cons e m ih =>
    obtain ⟨k', v'⟩ := e
    rw [keys_cons, List.forall_mem_cons] at comparable
    rcases comparable.1.cases with low | ⟨low, high⟩ | ⟨rfl, low⟩
    · rw [insert, if_pos low, List.lookup_cons]
      by_cases same : q == k <;> simp [same]
    · rw [insert, low, if_neg Bool.false_ne_true, if_pos high, List.lookup_cons, List.lookup_cons,
        ih comparable.2]
      by_cases same : q == k'
      · have apart : (q == k) = false := by
          rw [eq_of_beq same, beq_eq_false_iff_ne]
          rintro rfl
          rw [strict.irrefl] at high
          cases high
        simp [apart]
      · simp [same]
    · rw [insert, low, if_neg Bool.false_ne_true, if_neg Bool.false_ne_true, List.lookup_cons,
        List.lookup_cons]
      by_cases same : q == k <;> simp [same]

theorem lookup_insertNew [BEq α] [LawfulBEq α] (strict : Strict lt)
    (comparable : ∀ q ∈ keys m, Comparable lt k q) (ascending : Ascending lt m) (q : α) :
    (insertNew lt k v m).lookup q = (m.lookup q).or (if q == k then some v else none) := by
  induction m with
  | nil =>
    rw [insertNew, List.lookup_cons]
    by_cases same : q == k <;> simp [same]
  | cons e m ih =>
    obtain ⟨k', v'⟩ := e
    rw [keys_cons, List.forall_mem_cons] at comparable
    rw [Ascending, keys_cons, List.pairwise_cons] at ascending
    obtain ⟨first, rest⟩ := ascending
    rcases comparable.1.cases with low | ⟨low, high⟩ | ⟨rfl, low⟩
    · have absent : ((k', v') :: m).lookup k = none := by
        rw [List.lookup_eq_none_iff, List.forall_mem_cons]
        refine ⟨bne_iff_ne.mpr fun same => ?_, fun e mem => bne_iff_ne.mpr fun same => ?_⟩
        · subst same
          simp [strict.irrefl] at low
        · subst same
          have less := strict.trans _ _ _ low (first e.1 (List.mem_map_of_mem mem))
          simp [strict.irrefl] at less
      rw [insertNew, if_pos low, List.lookup_cons]
      by_cases same : q == k
      · obtain rfl := eq_of_beq same
        simp [absent]
      · simp [same]
    · rw [insertNew, low, if_neg Bool.false_ne_true, if_pos high, List.lookup_cons,
        List.lookup_cons, ih comparable.2 rest]
      by_cases same : q == k' <;> simp [same]
    · rw [insertNew, low, if_neg Bool.false_ne_true, if_neg Bool.false_ne_true, List.lookup_cons]
      by_cases same : q == k <;> simp [same]

theorem keys_insert_congr (k : α) (v : β) {m n : List (α × β)} (same : keys m = keys n) :
    keys (insert lt k v m) = keys (insert lt k v n) := by
  induction m generalizing n with
  | nil =>
    cases n with
    | nil => rfl
    | cons e n => cases same
  | cons e m ih =>
    cases n with
    | nil => cases same
    | cons e' n =>
      obtain ⟨q, w⟩ := e
      obtain ⟨q', w'⟩ := e'
      simp only [keys_cons, List.cons.injEq] at same
      obtain ⟨rfl, rest⟩ := same
      rw [insert, insert]
      split
      · simp only [keys_cons, rest]
      · split
        · simp only [keys_cons, ih rest]
        · simp only [keys_cons, rest]

theorem insertNew_comm (strict : Strict lt) {k' : α} (v' : β) (less : lt k k' = true) :
    insertNew lt k v (insertNew lt k' v' m) = insertNew lt k' v' (insertNew lt k v m) := by
  have more := strict.asymm less
  induction m with
  | nil => simp [insertNew, less, more]
  | cons e m ih =>
    obtain ⟨q, w⟩ := e
    by_cases low : lt k q
    · by_cases low' : lt k' q
      · simp [insertNew, low, low', less, more]
      · by_cases high' : lt q k' <;> simp [insertNew, low, low', high', less, more]
    · by_cases high : lt q k
      · have high' := strict.trans q k k' high less
        simp [insertNew, low, high, high', strict.asymm high', ih]
      · have low' : lt k' q = false := by
          by_contra low'
          exact low (strict.trans k k' q less (by simpa using low'))
        by_cases high' : lt q k' <;> simp [insertNew, low, high, low', high']

theorem insertNew_same (strict : Strict lt) (v' : β) :
    insertNew lt k v (insertNew lt k v' m) = insertNew lt k v' m := by
  induction m with
  | nil => simp [insertNew, strict.irrefl]
  | cons e m ih =>
    obtain ⟨q, w⟩ := e
    by_cases low : lt k q
    · simp [insertNew, low, strict.irrefl]
    · by_cases high : lt q k <;> simp [insertNew, low, high, ih]

theorem forall₂_insertNew {R : β → β → Prop} {v w : β} (values : R v w) {m n : List (α × β)}
    (pairs : List.Forall₂ (fun e e' => e.1 = e'.1 ∧ R e.2 e'.2) m n) :
    List.Forall₂ (fun e e' => e.1 = e'.1 ∧ R e.2 e'.2) (insertNew lt k v m)
      (insertNew lt k w n) := by
  induction pairs with
  | nil => exact .cons ⟨rfl, values⟩ .nil
  | @cons e e' m n first rest ih =>
    obtain ⟨q, u⟩ := e
    obtain ⟨q', u'⟩ := e'
    obtain ⟨rfl, _⟩ := id first
    rw [insertNew, insertNew]
    split
    · exact .cons ⟨rfl, values⟩ (.cons first rest)
    · split
      · exact .cons first ih
      · exact .cons first rest

end Insertion

section Entries

/-- Any two keys of the entries can be put in order. -/
def Sortable (lt : α → α → Bool) (entries : List (α × β)) : Prop :=
  ∀ a ∈ keys entries, ∀ b ∈ keys entries, Comparable lt a b

variable {entries : List (α × β)}

theorem Sortable.front {others : List (α × β)} (sortable : Sortable lt (entries ++ others)) :
    Sortable lt entries := by
  rw [Sortable, keys, List.map_append] at sortable
  exact fun a here b there => sortable a (List.mem_append_left _ here) b
    (List.mem_append_left _ there)

theorem Sortable.back {others : List (α × β)} (sortable : Sortable lt (entries ++ others)) :
    Sortable lt others := by
  rw [Sortable, keys, List.map_append] at sortable
  exact fun a here b there => sortable a (List.mem_append_right _ here) b
    (List.mem_append_right _ there)

theorem keys_concat (e : α × β) : keys (entries ++ [e]) = keys entries ++ [e.1] :=
  List.map_append

theorem Sortable.of_concat {e : α × β} (sortable : Sortable lt (entries ++ [e])) :
    Sortable lt entries ∧ ∀ q ∈ keys entries, Comparable lt e.1 q := by
  refine ⟨sortable.front, fun q mem => ?_⟩
  rw [Sortable, keys_concat] at sortable
  exact sortable e.1 (List.mem_append_right _ List.mem_cons_self) q (List.mem_append_left _ mem)

theorem ofLast_concat (e : α × β) :
    ofLast lt (entries ++ [e]) = insert lt e.1 e.2 (ofLast lt entries) :=
  List.foldl_concat ..

theorem ofFirst_concat (e : α × β) :
    ofFirst lt (entries ++ [e]) = insertNew lt e.1 e.2 (ofFirst lt entries) :=
  List.foldl_concat ..

theorem ofFirst_append (entries others : List (α × β)) :
    ofFirst lt (entries ++ others) = merge lt (ofFirst lt entries) others :=
  List.foldl_append ..

theorem merge_append (m entries others : List (α × β)) :
    merge lt m (entries ++ others) = merge lt (merge lt m entries) others :=
  List.foldl_append ..

theorem mem_keys_ofLast (sortable : Sortable lt entries) {q : α} :
    q ∈ keys (ofLast lt entries) ↔ q ∈ keys entries := by
  induction entries using List.reverseRecOn generalizing q with
  | nil => rfl
  | append_singleton entries e ih =>
    obtain ⟨before, own⟩ := sortable.of_concat
    have comparable : ∀ q ∈ keys (ofLast lt entries), Comparable lt e.1 q := fun q mem =>
      own q ((ih before).mp mem)
    rw [ofLast_concat, mem_keys_insert _ comparable, ih before, keys_concat, List.mem_append,
      List.mem_singleton, or_comm]

theorem ascending_ofLast (strict : Strict lt) (sortable : Sortable lt entries) :
    Ascending lt (ofLast lt entries) := by
  induction entries using List.reverseRecOn with
  | nil => exact List.Pairwise.nil
  | append_singleton entries e ih =>
    obtain ⟨before, own⟩ := sortable.of_concat
    rw [ofLast_concat]
    exact ascending_insert e.2 strict (fun q mem => own q ((mem_keys_ofLast before).mp mem))
      (ih before)

/-- A map made of entries holds the last value for each key. -/
theorem lookup_ofLast [BEq α] [LawfulBEq α] (strict : Strict lt) (sortable : Sortable lt entries)
    (q : α) : (ofLast lt entries).lookup q = entries.reverse.lookup q := by
  induction entries using List.reverseRecOn with
  | nil => rfl
  | append_singleton entries e ih =>
    obtain ⟨before, own⟩ := sortable.of_concat
    have comparable : ∀ q ∈ keys (ofLast lt entries), Comparable lt e.1 q := fun q mem =>
      own q ((mem_keys_ofLast before).mp mem)
    rw [ofLast_concat, lookup_insert _ strict comparable, ih before, List.reverse_concat,
      List.lookup_cons]
    by_cases same : q == e.1 <;> simp [same]

/-- Where no key is repeated, the entries are what is found under the keys. -/
theorem lookup_eq_some_iff_of_nodup [BEq α] [LawfulBEq α] {m : List (α × β)}
    (distinct : (keys m).Nodup) {k : α} {v : β} : m.lookup k = some v ↔ (k, v) ∈ m := by
  induction m with
  | nil => simp
  | cons e m ih =>
    obtain ⟨k', v'⟩ := e
    rw [keys_cons, List.nodup_cons] at distinct
    obtain ⟨first, rest⟩ := distinct
    rw [List.lookup_cons, List.mem_cons, ← ih rest]
    by_cases same : k == k'
    · obtain rfl := eq_of_beq same
      have absent : m.lookup k ≠ some v := by
        intro found
        have again : k ∈ keys m := List.mem_map_of_mem ((ih rest).mp found)
        exact first again
      simp [absent, eq_comm]
    · have other : k ≠ k' := by simpa using same
      simp [other, beq_eq_false_iff_ne.mpr other]

theorem Ascending.nodup_keys (strict : Strict lt) {m : List (α × β)} (ascending : Ascending lt m) :
    (keys m).Nodup :=
  ascending.imp fun {a b} less equal => by
    rw [equal, strict.irrefl] at less
    cases less

/-- The entries of a map in order are what is found under the keys. -/
theorem lookup_eq_some_iff [BEq α] [LawfulBEq α] (strict : Strict lt) {m : List (α × β)}
    (ascending : Ascending lt m) {k : α} {v : β} : m.lookup k = some v ↔ (k, v) ∈ m :=
  lookup_eq_some_iff_of_nodup (ascending.nodup_keys strict)

/-- Maps in order that hold the same are the same. -/
theorem Ascending.ext (strict : Strict lt) {m n : List (α × β)} (first : Ascending lt m)
    (second : Ascending lt n) (same : ∀ e, e ∈ m ↔ e ∈ n) : m = n := by
  have less : ∀ {m : List (α × β)}, Ascending lt m → m.Pairwise fun a b => lt a.1 b.1 = true :=
    fun ascending => List.pairwise_map.mp ascending
  have distinct : ∀ {m : List (α × β)}, Ascending lt m → m.Nodup := fun ascending =>
    (less ascending).imp fun {a b} low equal => by
      rw [equal, strict.irrefl] at low
      cases low
  refine List.Perm.eq_of_pairwise (fun a b _ _ low high => ?_) (less first) (less second)
    ((List.perm_ext_iff_of_nodup (distinct first) (distinct second)).mpr same)
  rw [strict.asymm low] at high
  cases high

theorem mem_ofLast [BEq α] [LawfulBEq α] (strict : Strict lt) (sortable : Sortable lt entries)
    {k : α} {v : β} : (k, v) ∈ ofLast lt entries ↔ entries.reverse.lookup k = some v := by
  rw [← lookup_ofLast strict sortable, lookup_eq_some_iff strict (ascending_ofLast strict sortable)]

theorem keys_ofFirst (sortable : Sortable lt entries) :
    keys (ofFirst lt entries) = keys (ofLast lt entries) := by
  induction entries using List.reverseRecOn with
  | nil => rfl
  | append_singleton entries e ih =>
    obtain ⟨before, own⟩ := sortable.of_concat
    have comparable : ∀ q ∈ keys (ofFirst lt entries), Comparable lt e.1 q := fun q mem =>
      own q ((mem_keys_ofLast before).mp (ih before ▸ mem))
    rw [ofFirst_concat, ofLast_concat, keys_insertNew _ comparable]
    exact keys_insert_congr e.1 e.2 (ih before)

theorem ascending_ofFirst (strict : Strict lt) (sortable : Sortable lt entries) :
    Ascending lt (ofFirst lt entries) := by
  rw [Ascending, keys_ofFirst sortable]
  exact ascending_ofLast strict sortable

theorem mem_keys_ofFirst (sortable : Sortable lt entries) {q : α} :
    q ∈ keys (ofFirst lt entries) ↔ q ∈ keys entries := by
  rw [keys_ofFirst sortable, mem_keys_ofLast sortable]

/-- A map that keeps the first value for each key is searched as its entries are. -/
theorem lookup_ofFirst [BEq α] [LawfulBEq α] (strict : Strict lt) (sortable : Sortable lt entries)
    (q : α) : (ofFirst lt entries).lookup q = entries.lookup q := by
  induction entries using List.reverseRecOn with
  | nil => rfl
  | append_singleton entries e ih =>
    obtain ⟨before, own⟩ := sortable.of_concat
    rw [ofFirst_concat, lookup_insertNew _ strict
      (fun q mem => own q ((mem_keys_ofFirst before).mp mem)) (ascending_ofFirst strict before),
      ih before, List.lookup_append, List.lookup_cons]
    by_cases same : q == e.1 <;> simp [same]

theorem mem_ofFirst [BEq α] [LawfulBEq α] (strict : Strict lt) (sortable : Sortable lt entries)
    {k : α} {v : β} : (k, v) ∈ ofFirst lt entries ↔ entries.lookup k = some v := by
  rw [← lookup_ofFirst strict sortable,
    lookup_eq_some_iff strict (ascending_ofFirst strict sortable)]

/-- Where no key is repeated, it does not matter which of its values a key keeps. -/
theorem ofLast_eq_ofFirst [BEq α] [LawfulBEq α] (strict : Strict lt)
    (sortable : Sortable lt entries) (distinct : (keys entries).Nodup) :
    ofLast lt entries = ofFirst lt entries := by
  have reversed : (keys entries.reverse).Nodup := by
    rw [keys, List.map_reverse]
    exact List.pairwise_reverse.mpr (distinct.imp Ne.symm)
  refine Ascending.ext strict (ascending_ofLast strict sortable) (ascending_ofFirst strict sortable)
    fun e => ?_
  rw [mem_ofLast strict sortable, mem_ofFirst strict sortable,
    lookup_eq_some_iff_of_nodup reversed, lookup_eq_some_iff_of_nodup distinct, List.mem_reverse]

/-- Entries with related values make maps with related values. -/
theorem forall₂_ofFirst {R : β → β → Prop} {m n : List (α × β)}
    (pairs : List.Forall₂ (fun e e' => e.1 = e'.1 ∧ R e.2 e'.2) m n) :
    List.Forall₂ (fun e e' => e.1 = e'.1 ∧ R e.2 e'.2) (ofFirst lt m) (ofFirst lt n) := by
  suffices step : ∀ done done' : List (α × β),
      List.Forall₂ (fun e e' => e.1 = e'.1 ∧ R e.2 e'.2) done done' →
      List.Forall₂ (fun e e' => e.1 = e'.1 ∧ R e.2 e'.2)
        (m.foldl (fun m e => insertNew lt e.1 e.2 m) done)
        (n.foldl (fun m e => insertNew lt e.1 e.2 m) done') by
    exact step [] [] .nil
  induction pairs with
  | nil => exact fun _ _ made => made
  | cons first _ ih =>
    intro done done' made
    rw [List.foldl_cons, List.foldl_cons, first.1]
    exact ih _ _ (forall₂_insertNew first.2 made)

/-- What is found under a key is the first of its entries. -/
theorem lookup_eq_head?_filter [BEq α] [LawfulBEq α] (entries : List (α × β)) (k : α) :
    entries.lookup k = ((entries.filter (·.1 == k)).head?).map (·.2) := by
  induction entries with
  | nil => rfl
  | cons e entries ih =>
    obtain ⟨own, v⟩ := e
    rw [List.lookup_cons]
    by_cases same : own = k
    · simp [same]
    · have other : (k == own) = false := beq_eq_false_iff_ne.mpr (Ne.symm same)
      simp [same, other, ih]

/-- Adding an entry that comes before all of `n` or is apart from them may wait. -/
theorem merge_insertNew_left (strict : Strict lt) {k : α} (v : β) {m n : List (α × β)}
    (apart : ∀ q ∈ keys n, lt k q = true) :
    merge lt (insertNew lt k v m) n = insertNew lt k v (merge lt m n) := by
  induction n generalizing m with
  | nil => rfl
  | cons e n ih =>
    rw [keys_cons, List.forall_mem_cons] at apart
    calc merge lt (insertNew lt k v m) (e :: n)
        = merge lt (insertNew lt e.1 e.2 (insertNew lt k v m)) n := rfl
      _ = merge lt (insertNew lt k v (insertNew lt e.1 e.2 m)) n := by
          rw [insertNew_comm v strict e.2 apart.1]
      _ = insertNew lt k v (merge lt m (e :: n)) := ih apart.2

theorem merge_insertNew_right (strict : Strict lt) {k : α} (v : β) {m n : List (α × β)}
    (ascending : Ascending lt n) (comparable : ∀ q ∈ keys n, Comparable lt k q) :
    merge lt m (insertNew lt k v n) = insertNew lt k v (merge lt m n) := by
  induction n generalizing m with
  | nil => rfl
  | cons e n ih =>
    obtain ⟨k', v'⟩ := e
    rw [keys_cons, List.forall_mem_cons] at comparable
    rw [Ascending, keys_cons, List.pairwise_cons] at ascending
    obtain ⟨first, rest⟩ := ascending
    rcases comparable.1.cases with low | ⟨low, high⟩ | ⟨rfl, low⟩
    · rw [insertNew, if_pos low]
      refine merge_insertNew_left (n := (k', v') :: n) strict v ?_
      rw [keys_cons, List.forall_mem_cons]
      exact ⟨low, fun q mem => strict.trans k k' q low (first q mem)⟩
    · rw [insertNew, low, if_neg Bool.false_ne_true, if_pos high]
      exact ih rest comparable.2
    · rw [insertNew, low, if_neg Bool.false_ne_true, if_neg Bool.false_ne_true]
      have later := merge_insertNew_left strict v' (m := m) first
      calc merge lt m ((k, v') :: n)
          = insertNew lt k v' (merge lt m n) := later
        _ = insertNew lt k v (insertNew lt k v' (merge lt m n)) :=
          (insertNew_same v strict v').symm
        _ = insertNew lt k v (merge lt m ((k, v') :: n)) := by rw [← later]; rfl

/-- Merging with a map made of entries is adding these one by one. -/
theorem merge_ofFirst (strict : Strict lt) (sortable : Sortable lt entries) (m : List (α × β)) :
    merge lt m (ofFirst lt entries) = merge lt m entries := by
  induction entries using List.reverseRecOn with
  | nil => rfl
  | append_singleton entries e ih =>
    obtain ⟨before, own⟩ := sortable.of_concat
    rw [ofFirst_concat, merge_insertNew_right strict _ (ascending_ofFirst strict before)
      (fun q mem => own q ((mem_keys_ofFirst before).mp mem)), ih before]
    rw [merge, merge, List.foldl_concat]

end Entries

section Names

theorem strict_nameLt : Strict nameLt where
  irrefl a := by simp [nameLt]
  trans a b c := by simpa [nameLt] using String.lt_trans

theorem sortable_nameLt (entries : List (String × β)) : Sortable nameLt entries := by
  intro a _ b _ low high
  simp only [nameLt, decide_eq_false_iff_not, String.not_lt] at low high
  exact String.le_antisymm high low

/-- A search through a map in name order finds what comes first by name. -/
theorem findSome?_eq_some_of_ascending {γ : Type} {m : List (String × β)}
    (ascending : Ascending nameLt m) {f : String × β → Option γ} {c : γ} :
    m.findSome? f = some c ↔ ∃ x ∈ m, f x = some c ∧ ∀ y ∈ m, f y ≠ none → x.1 ≤ y.1 := by
  induction m with
  | nil => simp
  | cons e m ih =>
    rw [Ascending, keys_cons, List.pairwise_cons] at ascending
    obtain ⟨first, rest⟩ := ascending
    have before : ∀ y ∈ m, e.1 < y.1 := fun y mem => by
      simpa [nameLt] using first y.1 (List.mem_map_of_mem mem)
    rw [List.findSome?_cons]
    cases found : f e with
    | some c' =>
      constructor
      · rintro ⟨⟩
        refine ⟨e, List.mem_cons_self, found, fun y mem _ => ?_⟩
        rcases List.mem_cons.mp mem with rfl | mem
        · exact String.le_refl _
        · exact String.not_lt.mp (String.lt_asymm (before y mem))
      · rintro ⟨x, mem, here, least⟩
        rcases List.mem_cons.mp mem with rfl | mem
        · rw [← here, found]
        · have low := least e List.mem_cons_self (by simp [found])
          exact absurd (before x mem) (String.not_lt.mpr low)
    | none =>
      rw [ih rest]
      constructor
      · rintro ⟨x, mem, here, least⟩
        refine ⟨x, List.mem_cons_of_mem _ mem, here, fun y there some => ?_⟩
        rcases List.mem_cons.mp there with rfl | there
        · exact absurd found some
        · exact least y there some
      · rintro ⟨x, mem, here, least⟩
        rcases List.mem_cons.mp mem with rfl | mem
        · simp [found] at here
        · exact ⟨x, mem, here, fun y there => least y (List.mem_cons_of_mem _ there)⟩

theorem mem_nameSet {names : List String} {name : String} :
    name ∈ nameSet names ↔ name ∈ names := by
  have sortable := sortable_nameLt (names.map (·, ()))
  have listed := mem_keys_ofFirst sortable (q := name)
  simpa [nameSet, keys] using listed

theorem nameSet_ascending (names : List String) : (nameSet names).Pairwise (· < ·) := by
  have sortable := sortable_nameLt (names.map (·, ()))
  have ascending := ascending_ofFirst strict_nameLt sortable
  simpa [Ascending, nameSet, keys, nameLt] using ascending

end Names
end ServiceClient.SortedMap
