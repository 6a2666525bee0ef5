import Mathlib.Data.List.Forall2

/-! Steps in sequence that may fail: a sequence succeeds exactly when every step does, and then its
results are those of the steps in order; it fails with the error of a step. -/

namespace ServiceClient.Sequence
variable {ε α β : Type}

theorem bind_eq_ok {x : Except ε α} {f : α → Except ε β} {b : β} :
    (x >>= f) = .ok b ↔ ∃ a, x = .ok a ∧ f a = .ok b := by
  cases x <;> simp [bind, Except.bind]

theorem then_eq_ok {x : Except ε Unit} {y : Except ε β} {b : β} :
    (x >>= fun _ => y) = .ok b ↔ x = .ok () ∧ y = .ok b := by
  cases x <;> simp [bind, Except.bind]

theorem bind_eq_error {x : Except ε α} {f : α → Except ε β} {e : ε} :
    (x >>= f) = .error e ↔ x = .error e ∨ ∃ a, x = .ok a ∧ f a = .error e := by
  cases x <;> simp [bind, Except.bind]

theorem map_eq_ok {x : Except ε α} {f : α → β} {b : β} :
    x.map f = .ok b ↔ ∃ a, x = .ok a ∧ f a = b := by
  cases x <;> simp [Except.map]

theorem map_eq_error {x : Except ε α} {f : α → β} {e : ε} : x.map f = .error e ↔ x = .error e := by
  cases x <;> simp [Except.map]

theorem forM_eq_ok {xs : List α} {check : α → Except ε Unit} :
    xs.forM check = .ok () ↔ ∀ x ∈ xs, check x = .ok () := by
  induction xs with
  | nil => exact iff_of_true rfl (List.forall_mem_nil _)
  | cons x xs ih =>
    have step : (x :: xs).forM check = (check x).bind fun _ => xs.forM check := rfl
    rw [step, List.forall_mem_cons, ← ih]
    cases check x <;> simp [Except.bind]

theorem exists_of_forM_eq_error {xs : List α} {check : α → Except ε Unit} {e : ε}
    (h : xs.forM check = .error e) : ∃ x ∈ xs, check x = .error e := by
  induction xs with
  | nil => cases h
  | cons x xs ih =>
    rcases bind_eq_error.mp h with first | ⟨-, -, later⟩
    · exact ⟨x, List.mem_cons_self, first⟩
    · obtain ⟨y, mem, found⟩ := ih later
      exact ⟨y, List.mem_cons_of_mem _ mem, found⟩

theorem mapM_eq_ok {f : α → Except ε β} {xs : List α} {ys : List β} :
    xs.mapM f = .ok ys ↔ List.Forall₂ (fun x y => f x = .ok y) xs ys := by
  induction xs generalizing ys with
  | nil => cases ys <;> simp [pure, Except.pure]
  | cons x xs ih =>
    rw [List.mapM_cons, bind_eq_ok]
    cases ys with
    | nil => simp [bind_eq_ok, pure, Except.pure]
    | cons y ys =>
      simp only [bind_eq_ok, ih, List.forall₂_cons, pure, Except.pure, Except.ok.injEq,
        List.cons.injEq]
      constructor
      · rintro ⟨_, first, _, rest, rfl, rfl⟩
        exact ⟨first, rest⟩
      · rintro ⟨first, rest⟩
        exact ⟨y, first, ys, rest, rfl, rfl⟩

theorem mapM_eq_ok_iff_map {f : α → Except ε β} {xs : List α} {ys : List β} :
    xs.mapM f = .ok ys ↔ xs.map f = ys.map .ok := by
  rw [mapM_eq_ok, ← List.forall₂_eq_eq_eq, List.forall₂_map_left_iff, List.forall₂_map_right_iff]

/-- The error of a step that fails. -/
def fault? : Except ε α → Option ε
  | .ok _ => none
  | .error e => some e

theorem fault?_eq_some {x : Except ε α} {e : ε} : fault? x = some e ↔ x = .error e := by
  cases x <;> simp [fault?]

/-- A sequence fails with the first error in it. -/
theorem fault?_mapM (f : α → Except ε β) (xs : List α) :
    fault? (xs.mapM f) = xs.findSome? fun x => fault? (f x) := by
  induction xs with
  | nil => rfl
  | cons x xs ih =>
    rw [List.mapM_cons, List.findSome?_cons, ← ih]
    cases f x with
    | error e => rfl
    | ok y => cases xs.mapM f <;> rfl

theorem exists_mapM_eq_ok {f : α → Except ε β} {xs : List α}
    (h : ∀ x ∈ xs, ∃ y, f x = .ok y) : ∃ ys, xs.mapM f = .ok ys := by
  induction xs with
  | nil => exact ⟨[], rfl⟩
  | cons x xs ih =>
    obtain ⟨y, first⟩ := h x List.mem_cons_self
    obtain ⟨ys, rest⟩ := ih fun x mem => h x (List.mem_cons_of_mem _ mem)
    rw [mapM_eq_ok] at rest
    exact ⟨y :: ys, mapM_eq_ok.mpr (.cons first rest)⟩

theorem exists_forall₂ {R : α → β → Prop} {xs : List α} :
    (∃ ys, List.Forall₂ R xs ys) ↔ ∀ x ∈ xs, ∃ y, R x y := by
  induction xs with
  | nil => simp
  | cons x xs ih =>
    rw [List.forall_mem_cons, ← ih]
    constructor
    · rintro ⟨_, _ | ⟨first, rest⟩⟩
      exact ⟨⟨_, first⟩, _, rest⟩
    · rintro ⟨⟨y, first⟩, ys, rest⟩
      exact ⟨y :: ys, .cons first rest⟩

theorem exists_mem_left {R : α → β → Prop} {xs : List α} {ys : List β}
    (pairs : List.Forall₂ R xs ys) {y : β} (mem : y ∈ ys) : ∃ x ∈ xs, R x y := by
  induction pairs with
  | nil => cases mem
  | cons first rest ih =>
    rcases List.mem_cons.mp mem with rfl | mem
    · exact ⟨_, List.mem_cons_self, first⟩
    · obtain ⟨x, here, related⟩ := ih mem
      exact ⟨x, List.mem_cons_of_mem _ here, related⟩

/-- What stands beside an element stands beside what the element is related to. -/
theorem exists_mem_zip_right {γ : Type} {R : α → β → Prop} {xs : List α} {ys : List β} {zs : List γ}
    (pairs : List.Forall₂ R xs ys) {x : α} {z : γ} (mem : (x, z) ∈ xs.zip zs) :
    ∃ y, R x y ∧ (y, z) ∈ ys.zip zs := by
  induction pairs generalizing zs with
  | nil => cases mem
  | cons first _ ih =>
    cases zs with
    | nil => cases mem
    | cons z' zs =>
      rcases List.mem_cons.mp mem with same | mem
      · cases same
        exact ⟨_, first, List.mem_cons_self⟩
      · obtain ⟨y, related, here⟩ := ih mem
        exact ⟨y, related, List.mem_cons_of_mem _ here⟩

/-- What comes of the same elements in two ways corresponds. -/
theorem forall₂_of_common {γ : Type} {R : α → β → Prop} {S : α → γ → Prop} {T : β → γ → Prop}
    {xs : List α} {ys : List β} {zs : List γ} (each : ∀ x y z, R x y → S x z → T y z)
    (left : List.Forall₂ R xs ys) (right : List.Forall₂ S xs zs) : List.Forall₂ T ys zs := by
  induction left generalizing zs with
  | nil =>
    cases right
    exact .nil
  | cons first _ ih =>
    obtain _ | ⟨first', rest'⟩ := right
    exact .cons (each _ _ _ first first') (ih rest')

/-- Elements that are related to the same things may stand for each other. -/
theorem forall₂_congr_left {γ : Type} {R : α → γ → Prop} {S : β → γ → Prop} {xs : List α}
    {ys : List β} (pairs : List.Forall₂ (fun x y => ∀ z, R x z ↔ S y z) xs ys) {zs : List γ} :
    List.Forall₂ R xs zs ↔ List.Forall₂ S ys zs := by
  induction pairs generalizing zs with
  | nil => cases zs <;> simp
  | cons first _ ih =>
    cases zs with
    | nil => simp
    | cons z zs => rw [List.forall₂_cons, List.forall₂_cons, first z, ih]

/-- Lists that differ in one place. -/
theorem forall₂_of_middle {R : α → α → Prop} (same : ∀ x, R x x) {x y : α} (middle : R x y)
    (before after : List α) : List.Forall₂ R (before ++ x :: after) (before ++ y :: after) := by
  induction before with
  | nil => exact .cons middle (List.forall₂_same.mpr fun z _ => same z)
  | cons z before ih => exact .cons (same z) ih

/-- A search ends at the only element that gives anything. -/
theorem findSome?_eq_some_of_only {f : α → Option β} {xs : List α} {x : α} {y : β} (mem : x ∈ xs)
    (here : f x = some y) (only : ∀ z ∈ xs, ∀ w, f z = some w → z = x) :
    xs.findSome? f = some y := by
  cases found : xs.findSome? f with
  | none =>
    rw [List.findSome?_eq_none_iff.mp found x mem] at here
    cases here
  | some w =>
    obtain ⟨z, mem', found'⟩ := List.exists_of_findSome?_eq_some found
    obtain rfl := only z mem' w found'
    exact found'.symm.trans here

theorem map_eq_map {γ : Type} {f : α → γ} {g : β → γ} {xs : List α} {ys : List β}
    (pairs : List.Forall₂ (fun x y => f x = g y) xs ys) : ys.map g = xs.map f := by
  induction pairs with
  | nil => rfl
  | cons first rest ih => rw [List.map_cons, List.map_cons, first, ih]

theorem optionMapM_eq_ok {f : α → Except ε β} {o : Option α} {r : Option β} :
    o.mapM f = .ok r ↔ List.Forall₂ (fun x y => f x = .ok y) o.toList r.toList := by
  cases o <;> cases r <;> simp [Functor.map, map_eq_ok, pure, Except.pure]

theorem exists_optionMapM_eq_ok {f : α → Except ε β} {o : Option α}
    (h : ∀ x ∈ o, ∃ y, f x = .ok y) : ∃ r, o.mapM f = .ok r := by
  cases o with
  | none => exact ⟨none, rfl⟩
  | some x =>
    obtain ⟨y, hy⟩ := h x rfl
    exact ⟨some y, by simp [hy, Functor.map, Except.map]⟩

end ServiceClient.Sequence
