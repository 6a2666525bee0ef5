import ServiceClient.Client.Gadgets
import ServiceClient.Proofs.Client.CutResponse
import ServiceClient.Proofs.Codec.JsonReadiness
import ServiceClient.Proofs.Generator.RequestSetup
import Mathlib.Order.Interval.Set.Basic

/-! What methods make of answers. A method sends one request. A failure to send it is returned as it
is, a response with an error status is told by its status and its text, and only a response that
reports success is decoded. -/

namespace ServiceClient.Client
open ServiceClient.Codec ServiceClient.Generator ServiceClient.Schema ServiceClient.Sequence
open ServiceClient.Wire

section Outputs
variable {m : Module} {output : Output}

theorem decodeOutput_settles (ready : m.ready (m.shapes.length + 1) output.type) (r : Response) :
    (decodeOutput m output r).run ≠ none := by
  cases protocol : m.protocol with
  | restXml => exact decodeOutput_ne_none protocol ready
  | json =>
    rw [decodeOutput, protocol]
    intro stuck
    rcases Outcome.run_bind_eq_none.mp stuck with stuck | ⟨v, -, stuck⟩
    · exact Outcome.run_ofExcept_ne_none _ stuck
    · exact Module.decodeJson_settles ready output.shape v stuck

/-- The decoders of all outputs have all that they call. -/
def OutputsReady (m : Module) : Prop :=
  ∀ op ∈ m.client.methods, ∀ output ∈ op.output, m.ready (m.shapes.length + 1) output.type

theorem outputsReady_of_all (checked : m.client.methods.all fun op => op.output.all fun output =>
    m.ready (m.shapes.length + 1) output.type) : OutputsReady m := by
  intro op listed output returns
  have own := List.all_eq_true.mp checked op listed
  rwa [returns, Option.all_some] at own

end Outputs

theorem isSuccess_iff {r : Response} : r.isSuccess ↔ r.status ∈ Set.Icc 200 299 := by
  simp only [Response.isSuccess, Bool.and_eq_true, decide_eq_true_eq, Set.mem_Icc]
  omega

/-- What a method for an operation returns for each answer to its request. -/
structure Reports (ctx : Context) (m : Module) (o : Operation)
    (outcome : Except DispatchError Response → Except OperationError (Option Codec.Value)) :
    Prop where
  unsent : ∀ e, outcome (.error e) = .error (.dispatch e)
  refused : ∀ r, r.status ∉ Set.Icc 200 299 →
    outcome (.ok r) = .error (.service o.name r.status (Text.Utf8.decodeLossy r.body))
  /-- Neither the headers nor the exact bytes of a refusal can be told from what is returned. -/
  alike : ∀ r r', r.status ∉ Set.Icc 200 299 → r.status = r'.status →
    Text.Utf8.decodeLossy r.body = Text.Utf8.decodeLossy r'.body →
    outcome (.ok r) = outcome (.ok r')
  done : o.output = none → ∀ r, r.status ∈ Set.Icc 200 299 → outcome (.ok r) = .ok none
  decoded : ∀ shape, o.output = some shape → ∃ type, ctx.names.typeName shape = .ok type ∧
    ∀ r, r.status ∈ Set.Icc 200 299 →
      (∃ v, (decodeOutput m ⟨type, shape⟩ r).run = some (.ok v) ∧
        outcome (.ok r) = .ok (some v)) ∨
      ∃ e, (decodeOutput m ⟨type, shape⟩ r).run = some (.error e) ∧
        outcome (.ok r) = .error (.parse e)

/-- The methods of a client send one request for each input of their operation, the same whatever
sends it, and report its answer. -/
def ReportsAnswers (service : Service) (m : Module) : Prop :=
  ∃ ctx, Context.new service {} = .ok ctx ∧ ctx.validate = .ok () ∧ ctx.plan = .ok m ∧
    ∀ o ∈ service.operations, ∃ op outcome, m.method? o.name = some op ∧ Reports ctx m o outcome ∧
      ∀ region input, ctx.Takes o input → ∃ request, request? m region op input = some request ∧
        ∀ {M : Type → Type} [Monad M] (dispatch : Request → M (Except DispatchError Response)),
          call dispatch m region o.name input = do
            let answer ← dispatch request
            pure (some (outcome answer))

section Methods
variable {ctx : Context} {m : Module} {o : Operation} {op : Method}

/-- Every answer has a result. -/
theorem exists_result (ready : OutputsReady m) (listed : op ∈ m.client.methods)
    (answer : Except DispatchError Response) : ∃ result, result? m op answer = some result := by
  cases answer with
  | error e => exact ⟨_, rfl⟩
  | ok r =>
    rw [result?]
    split
    · cases returns : op.output with
      | none => exact ⟨_, rfl⟩
      | some output =>
        obtain ⟨result, ran⟩ := Option.ne_none_iff_exists'.mp
          (decodeOutput_settles (ready op listed output returns) r)
        exact ⟨_, Option.map_eq_some_iff.mpr ⟨result, ran, rfl⟩⟩
    · exact ⟨_, rfl⟩

theorem exists_reports (ready : OutputsReady m) (listed : op ∈ m.client.methods)
    (made : ctx.method o = .ok op) :
    ∃ outcome, Reports ctx m o outcome ∧ ∀ answer, result? m op answer = some (outcome answer) := by
  choose outcome gives using exists_result ready listed
  have own := Context.method_eq_ok made
  have refused : ∀ r, r.status ∉ Set.Icc 200 299 →
      outcome (.ok r) = .error (.service o.name r.status (Text.Utf8.decodeLossy r.body)) := by
    intro r outside
    have ran := gives (.ok r)
    rw [result?, if_neg (isSuccess_iff.not.mpr outside), own.operation] at ran
    exact (Option.some.inj ran).symm
  refine ⟨outcome, ?_, gives⟩
  exact {
    unsent := fun e => (Option.some.inj (gives (.error e))).symm
    refused := refused
    alike := fun r r' outside status text => by
      rw [refused r outside, refused r' (status ▸ outside), status, text]
    done := fun absent r within => by
      have ran := gives (.ok r)
      rw [result?, if_pos (isSuccess_iff.mpr within), own.output_eq_none absent] at ran
      exact (Option.some.inj ran).symm
    decoded := fun shape returns => by
      obtain ⟨type, -, output, -, typed⟩ := own.exists_output returns
      refine ⟨type, typed, fun r within => ?_⟩
      have ran := gives (.ok r)
      simp only [result?, if_pos (isSuccess_iff.mpr within), output] at ran
      obtain ⟨result, decoded, made⟩ := Option.map_eq_some_iff.mp ran
      cases result with
      | ok v => exact .inl ⟨v, decoded, made.symm⟩
      | error e => exact .inr ⟨e, decoded, made.symm⟩ }

/-- Clients whose outputs can all be decoded report every answer. -/
theorem reportsAnswers {service : Service} (planned : planService service {} = .ok m)
    (references : service.checkReferences = .ok ()) (ready : OutputsReady m) :
    ReportsAnswers service m := by
  simp only [planService, bind_eq_ok] at planned
  obtain ⟨ctx, new, ⟨⟨⟩, valid, planned⟩⟩ := planned
  have checked := Context.Checked.ofReferences references new valid
  obtain ⟨rfl, -⟩ := Context.new_eq_ok new
  refine ⟨ctx, new, valid, planned, fun o mem => ?_⟩
  obtain ⟨op, found, made⟩ := checked.exists_method? planned mem
  have listed : op ∈ m.client.methods := List.mem_of_find?_eq_some found
  obtain ⟨outcome, reports, gives⟩ := exists_reports ready listed made
  refine ⟨op, outcome, found, reports, fun region input takes => ?_⟩
  obtain ⟨request, requested⟩ := checked.exists_request_of_takes planned mem made region takes
  refine ⟨request, requested, fun dispatch => ?_⟩
  simp only [call, found, requested, Option.bind_some, Option.map_some, gives]

end Methods

theorem Widgets.outputs_all_ready : OutputsReady Widgets.plan :=
  outputsReady_of_all (by decide +kernel)

theorem Gadgets.outputs_all_ready : OutputsReady Gadgets.plan :=
  outputsReady_of_all (by decide +kernel)

/-- Both clients report every answer to every request. -/
theorem answers_reported :
    ReportsAnswers Widgets.service Widgets.plan ∧ ReportsAnswers Gadgets.service Gadgets.plan :=
  ⟨reportsAnswers Widgets.planService_service (by decide +kernel) Widgets.outputs_all_ready,
    reportsAnswers Gadgets.planService_service (by decide +kernel) Gadgets.outputs_all_ready⟩

/-- A refusal whose body is not even text. -/
theorem unreadable_refusal_reported :
    call (M := Id) (fun _ => .ok { status := 404, body := [0xFF] }) Widgets.plan "eu-west-1"
        "GetWidget" (some (.struct [("id", some (.text "a"))])) =
      some (.error (.service "GetWidget" 404 "\uFFFD")) := by
  obtain ⟨ctx, new, -, -, each⟩ := answers_reported.1
  obtain ⟨same, -⟩ := Context.new_eq_ok new
  have listed : Widgets.service.operations[2] ∈ Widgets.service.operations :=
    List.getElem_mem (by decide)
  obtain ⟨op, outcome, -, reports, sends⟩ := each _ listed
  have named : ((Context.new Widgets.service {}).toOption.map fun ctx =>
      (ctx.names.snakeName "Id").toOption) = some (some "id") := by
    decide +kernel
  rw [new] at named
  have input : ctx.service.shape? "GetWidgetRequest" = some Widgets.service.shapes[4] := by
    rw [same]
    rfl
  have string : ctx.service.shape? "String" = some Widgets.service.shapes[12] := by
    rw [same]
    rfl
  have typed : ctx.Takes Widgets.service.operations[2]
      (some (.struct [("id", some (.text "a"))])) := by
    refine .some (.struct input rfl (.cons (eq_ok_of_toOption (Option.some.inj named)) .nil)
      (by decide) ?_)
    simpa [Widgets.service, Codec.Value.text] using
      Context.OfShape.scalar (v := .text "a") string rfl rfl
  obtain ⟨request, -, sent⟩ := sends "eu-west-1" _ typed
  have refused := reports.refused { status := 404, body := [0xFF] } (by simp)
  have text : Text.Utf8.decodeLossy [0xFF] = "\uFFFD" := by decide +kernel
  rw [text] at refused
  exact (sent (M := Id) _).trans (congrArg some refused)

end ServiceClient.Client
