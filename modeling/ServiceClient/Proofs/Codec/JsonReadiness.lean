import ServiceClient.Proofs.Codec.JsonMembers
import ServiceClient.Proofs.Codec.Readiness

/-! Decoders of JSON services that always come to a result: where every codec that a type calls
exists and fits, any JSON value is decoded to a value or an error. -/

namespace ServiceClient.Codec.Module
open ServiceClient.Schema ServiceClient.Wire Outcome

variable {m : Module} {headers : Headers}

theorem jsonItems_settles {element field : String}
    (each : ∀ v, (m.decodeJson headers element field v).run ≠ none) (items : List Json.Value) :
    (m.jsonItems headers element field items).run ≠ none := by
  induction items with
  | nil => simp [jsonItems, pure, ExceptT.pure, ExceptT.run, ExceptT.mk]
  | cons v items ih =>
    rw [jsonItems]
    intro stuck
    rcases run_bind_eq_none.mp stuck with stuck | ⟨x, -, stuck⟩
    · exact each v stuck
    · rcases run_bind_eq_none.mp stuck with stuck | ⟨xs, -, stuck⟩
      · exact ih stuck
      · cases stuck

theorem jsonEntries_settles {kind : PrimitiveKind} {value field : String}
    (each : ∀ v, (m.decodeJson headers value field v).run ≠ none)
    (entries : List (String × Json.Value)) :
    (m.jsonEntries headers kind value field entries).run ≠ none := by
  induction entries with
  | nil => simp [jsonEntries, pure, ExceptT.pure, ExceptT.run, ExceptT.mk]
  | cons entry entries ih =>
    obtain ⟨name, v⟩ := entry
    rw [jsonEntries]
    intro stuck
    rcases run_bind_eq_none.mp stuck with stuck | ⟨k, -, stuck⟩
    · exact run_ofExcept_ne_none _ stuck
    · rcases run_bind_eq_none.mp stuck with stuck | ⟨x, -, stuck⟩
      · exact each v stuck
      · rcases run_bind_eq_none.mp stuck with stuck | ⟨rest, -, stuck⟩
        · exact ih stuck
        · cases stuck

/-- The members of an object fill slots of the same fields. -/
theorem jsonMembers_settles {fields : List FieldRead}
    (each : ∀ f ∈ fields, f.isHeader = false →
      ∀ wire v, (m.decodeJson headers f.type wire v).run ≠ none)
    (entries : List (String × Json.Value)) {slots : Slots} (start : slots.map (·.1) = fields) :
    (m.jsonMembers headers slots entries).run ≠ none ∧
      ∀ filled, (m.jsonMembers headers slots entries).run = some (.ok filled) →
        filled.map (·.1) = fields := by
  induction entries generalizing slots with
  | nil =>
    refine ⟨by simp [jsonMembers, pure, ExceptT.pure, ExceptT.run, ExceptT.mk], ?_⟩
    intro filled ran
    cases ran
    exact start
  | cons entry entries ih =>
    obtain ⟨wire, v⟩ := entry
    cases null : v.isNull with
    | true =>
      obtain rfl := Json.Value.isNull_eq_true_iff.mp null
      simpa only [jsonMembers] using ih start
    | false =>
      rw [jsonMembers_cons null]
      cases found : slots.member? wire with
      | none => exact ih start
      | some f =>
        obtain ⟨known, part⟩ := Slots.mem_of_member? found
        have settled := each f (start ▸ known) (FieldRead.isPart_iff.mp part).1 wire v
        have kept (x : Value) := ih ((Slots.map_store wire x slots).trans start)
        constructor
        · intro stuck
          rcases run_bind_eq_none.mp stuck with stuck | ⟨x, -, stuck⟩
          · exact settled stuck
          · exact (kept x).1 stuck
        · intro filled ran
          obtain ⟨x, -, ran⟩ := run_bind_eq_ok.mp ran
          exact (kept x).2 filled ran

theorem decodeJson_settles {bound : Nat} {type : String} (ready : m.ready bound type)
    (field : String) (v : Json.Value) : (m.decodeJson headers type field v).run ≠ none := by
  induction bound generalizing type field v with
  | zero => cases ready
  | succ bound ih =>
    cases body : m.decoderBody? type with
    | none => simp [Module.ready, body] at ready
    | some decoder =>
      have leaf : ∀ v, (Outcome.ofExcept (decodeLeaf field v decoder)).run ≠ none :=
        fun v => run_ofExcept_ne_none _
      cases v with
      | array items =>
        cases decoder with
        | list element =>
          have ready : m.ready bound element := by simpa [Module.ready, body] using ready
          simp only [decodeJson, body]
          intro stuck
          rcases run_bind_eq_none.mp stuck with stuck | ⟨xs, -, stuck⟩
          · exact jsonItems_settles (fun v => ih ready field v) items stuck
          · cases stuck
        | scalar | map | struct =>
          simp only [decodeJson, body]
          exact leaf _
      | object entries =>
        cases decoder with
        | map key value keyWire valueWire =>
          obtain ⟨known, ready⟩ : (m.scalarKind? key).isSome ∧ m.ready bound value := by
            simpa [Module.ready, body] using ready
          obtain ⟨kind, kinds⟩ := Option.isSome_iff_exists.mp known
          simp only [decodeJson, body, kinds]
          intro stuck
          rcases run_bind_eq_none.mp stuck with stuck | ⟨pairs, -, stuck⟩
          · exact jsonEntries_settles (fun v => ih ready field v) entries stuck
          · cases stuck
        | struct shape fields =>
          obtain ⟨known, members⟩ := (ready_struct_iff body).mp ready
          obtain ⟨settled, kept⟩ := jsonMembers_settles
            (fun f mem own wire v => ih (members f mem own) wire v) entries (Slots.map_start fields)
          simp only [decodeJson, body]
          intro stuck
          rcases run_bind_eq_none.mp stuck with stuck | ⟨slots, filled, stuck⟩
          · exact settled stuck
          · exact Slots.close_settles shape headers (kept slots filled ▸ known) stuck
        | scalar | list =>
          simp only [decodeJson, body]
          exact leaf _
      | null | bool | number | string =>
        simp only [decodeJson, body]
        exact leaf _

end ServiceClient.Codec.Module
