import ServiceClient.Proofs.Markup.Children

/-! Runs of sibling elements. A run that goes on as far as it can ends in one place, and children of
one name with blank text between them are such a run. -/

namespace ServiceClient.Markup

section Runs
variable {tag : String} {xs ys rest rest' : List Event}

theorem IsRun.append (first : IsRun tag xs) (later : IsRun tag ys) : IsRun tag (xs ++ ys) := by
  obtain ⟨elements, blank, rfl, each, blanks⟩ := first
  obtain ⟨elements', blank', rfl, each', blanks'⟩ := later
  induction elements with
  | nil =>
    cases elements' with
    | nil =>
      refine ⟨[], blank ++ blank', by simp, nofun, fun e mem => ?_⟩
      exact (List.mem_append.mp mem).elim (blanks e) (blanks' e)
    | cons e elements' =>
      obtain ⟨own, others⟩ := List.forall_mem_cons.mp each'
      refine ⟨(blank ++ e) :: elements', blank', by simp, ?_, blanks'⟩
      exact List.forall_mem_cons.mpr ⟨own.behind blanks, others⟩
  | cons e elements ih =>
    obtain ⟨own, others⟩ := List.forall_mem_cons.mp each
    have whole := (ih others).cons own
    simpa using whole

theorem skipBlank_blank_append (blanks : ∀ e ∈ xs, e.isBlank) :
    skipBlank (xs ++ rest) = skipBlank rest :=
  List.dropWhile_append_of_pos blanks

theorem IsElement.head_skipBlank (element : IsElement tag xs) (rest : List Event) :
    (skipBlank (xs ++ rest)).head? = some (.opening tag) := by
  obtain ⟨blank, body, rfl, blanks, -⟩ := element
  rw [List.append_assoc, List.append_assoc, skipBlank_blank_append blanks]
  rfl

/-- A run that goes on as far as it can ends in one place. -/
theorem IsRun.unique (run : IsRun tag xs) (run' : IsRun tag ys) (same : xs ++ rest = ys ++ rest')
    (stops : (skipBlank rest).head? ≠ some (.opening tag))
    (stops' : (skipBlank rest').head? ≠ some (.opening tag)) :
    skipBlank rest = skipBlank rest' := by
  obtain ⟨elements, blank, rfl, each, blanks⟩ := run
  obtain ⟨elements', blank', rfl, each', blanks'⟩ := run'
  -- Elements are told apart by where they close, so that the runs agree one by one. Where one of
  -- them has an element more, the other has stopped in front of an opening.
  induction elements generalizing elements' with
  | nil =>
    cases elements' with
    | nil =>
      calc skipBlank rest = skipBlank (blank ++ rest) := (skipBlank_blank_append blanks).symm
        _ = skipBlank (blank' ++ rest') := by simpa using congrArg skipBlank same
        _ = skipBlank rest' := skipBlank_blank_append blanks'
    | cons e elements' =>
      have own := each' e List.mem_cons_self
      have opens := own.head_skipBlank (elements'.flatten ++ blank' ++ rest')
      refine absurd ?_ stops
      rw [← opens, ← skipBlank_blank_append blanks]
      simpa using congrArg (fun events => (skipBlank events).head?) same
  | cons e elements ih =>
    obtain ⟨own, others⟩ := List.forall_mem_cons.mp each
    cases elements' with
    | nil =>
      have opens := own.head_skipBlank (elements.flatten ++ blank ++ rest)
      refine absurd ?_ stops'
      rw [← opens, ← skipBlank_blank_append blanks']
      simpa using congrArg (fun events => (skipBlank events).head?) same.symm
    | cons e' elements' =>
      obtain ⟨own', others'⟩ := List.forall_mem_cons.mp each'
      simp only [List.flatten_cons, List.append_assoc] at same
      have behind := (own.append_inj own' same).2
      exact ih others elements' (by simpa using behind) others'

end Runs

/-- The elements among parts, which blank text may stand between. -/
def childrenOf (parts : List Part) : List Child :=
  parts.filterMap Part.child?

section Parts
variable {tag : String} {parts : List Part} (named : ∀ c ∈ childrenOf parts, c.name = tag)
include named

theorem isRun_parts : IsRun tag (parts.flatMap Part.events) := by
  induction parts with
  | nil => exact .blank nofun
  | cons part parts ih =>
    cases part with
    | blank s white =>
      have front : IsRun tag [.text s] := .blank (by simpa [Event.isBlank] using white)
      exact front.append (ih named)
    | child c =>
      obtain ⟨own, others⟩ := List.forall_mem_cons.mp named
      exact (ih others).cons (own ▸ c.isElement)

/-- Children stand in front of what follows the parts, unless there are none. -/
theorem skipBlank_parts (rest : List Event) :
    match childrenOf parts with
    | [] => skipBlank (parts.flatMap Part.events ++ rest) = skipBlank rest
    | _ :: _ => (skipBlank (parts.flatMap Part.events ++ rest)).head? = some (.opening tag) := by
  induction parts with
  | nil => exact rfl
  | cons part parts ih =>
    cases part with
    | blank s white =>
      have blank : (Event.text s).isBlank := white
      have same : skipBlank ((Part.blank s white :: parts).flatMap Part.events ++ rest) =
          skipBlank (parts.flatMap Part.events ++ rest) :=
        List.dropWhile_cons_of_pos blank
      rw [same]
      exact ih named
    | child c =>
      obtain ⟨own, -⟩ := List.forall_mem_cons.mp named
      exact own ▸ rfl

end Parts
end ServiceClient.Markup
