import Mathlib.Data.List.Forall2
import Flowtrace.Proofs.Documents
import Flowtrace.Proofs.Flattening
import Flowtrace.Proofs.PartialRuns

/-! The endpoint that runs workflows. Its response is made from how a run ended, so it can say no
more and no less than the engine does: every fault of a run of its own making comes with the run
up to it, and every value of a run has a form that JSON can spell. -/

namespace Flowtrace

variable {φ : Type}

namespace Json

structure TellsMove (document : Json String) (transition : Transition) : Prop where
  label : document.part "label" = .str transition.label
  source : document.part "source" = .ofOption transition.source
  destination : document.part "destination" = .ofOption transition.destination
  edge : document.part "edge" = .ofOption transition.edge
  payload : document.part "payload" = transition.payload.toJson

structure Tells (document : Json String) (result : RunResult) : Prop where
  success : document.part "success" = .bool result.success
  transitions : List.Forall₂ TellsMove (document.part "transitions").items result.transitions
  output : document.part "output" = result.output.toJson
  context : document.part "context" = (Value.dict result.context).toJson

/-- What the document of a failed run says of its fault: whether the graph or a step is to blame, and
the failure of the last call if it is the step. -/
structure TellsCause (document : Json String) (engine : Engine φ) (visits : List (Visit φ))
    (fault : Fault) : Prop where
  structural : document.part "error" = .str "structure_error" ↔
    fault.kind = .startTaskNotFound ∨ (∃ target, fault.kind = .taskNotFound target) ∨
      ∃ choice key, fault.kind = .unmappedChoice choice key
  step : document.part "error" = .str "step_failed" ↔
    ∃ name reason, fault.kind = .stepExecution name reason
  uncaused : document.part "error" = .str "structure_error" →
    document.part "original_error" = .null
  caused : document.part "error" = .str "step_failed" →
    ∃ visit error, visits.getLast? = some visit ∧
      visit.conclusion engine = .settled (.failure error) ∧
      document.part "original_error" = error.toJson

structure TellsFailure (document : Json String) (engine : Engine φ) (visits : List (Visit φ))
    (failure : Raised φ) (result : RunResult) : Prop where
  attached : failure.result = some result
  reported : document.part "result" ≠ .null
  told : (document.part "result").Tells result
  unsuccessful : result.success = false
  charted : document.part "diagram_url" ≠ .null
  className : document.part "error_type" = .str failure.fault.className
  message : document.part "message" = .str failure.fault.message
  cause : document.TellsCause engine visits failure.fault

end Json

theorem Transition.tells_toJson (transition : Transition) :
    transition.toJson.TellsMove transition := by
  constructor <;> simp [toJson]

theorem RunResult.tells_toJson (result : RunResult) : result.toJson.Tells result where
  success := by simp [toJson]
  transitions := by
    have shown : (result.toJson.part "transitions").items =
        result.transitions.map Transition.toJson := by
      simp [toJson]
    rw [shown, List.forall₂_map_left_iff]
    exact List.forall₂_same.mpr fun transition _ => transition.tells_toJson
  output := by simp [toJson]
  context := by simp [toJson]

theorem Transition.toJson_proper (transition : Transition) : transition.toJson.Proper := by
  refine .obj (by simp) ?_
  simp only [List.forall_mem_cons]
  exact ⟨.str _, .ofOption _, .ofOption _, transition.payload.toJson_proper, .ofOption _, by simp⟩

theorem RunResult.toJson_proper (result : RunResult) : result.toJson.Proper := by
  refine .obj (by simp) ?_
  simp only [List.forall_mem_cons]
  refine ⟨.bool _, .arr ?_, result.output.toJson_proper, Value.toJson_proper _, by simp⟩
  intro document member
  obtain ⟨transition, _, rfl⟩ := List.mem_map.mp member
  exact transition.toJson_proper

theorem Raised.toJson_proper (failure : Raised φ) : failure.toJson.Proper := by
  refine .obj (by simp) ?_
  simp only [List.forall_mem_cons]
  refine ⟨.str _, .str _, .str _, Value.toJson_proper _, ?_, .ofOption _, by simp⟩
  cases failure.result with
  | none => exact .null
  | some result => exact result.toJson_proper

theorem Fault.cause_stepExecution (name : String) (error : Value) (reason : Option String) :
    (stepExecution name error reason).cause = error := by
  cases error <;> rfl

section Concludes

variable {engine : Engine φ} {graph : TaskGraph φ} {input : Value} {context : Context}
  {visits : List (Visit φ)} {failure : Raised φ}

theorem Concludes.isOwn_of_isExecution
    (concludes : Concludes engine graph input context visits (.raised failure))
    (execution : failure.fault.kind.isExecution = true) :
    failure.fault.kind.isOwn = true := by
  cases concludes with
  | empty => rfl
  | dangling => rfl
  | refused journey settled refuses => cases refuses <;> rfl
  | escaped journey escaped =>
    have foreign := FaultKind.isExecution_of_isAbort (Settlement.kind_of_escaped escaped)
    exact absurd execution (by simp [Raised.bare, foreign])

/-- Where every step settles, nothing escapes a run but what it reports. -/
theorem Concludes.isExecution_of_settled
    (concludes : Concludes engine graph input context visits (.raised failure))
    (settled : ∀ task ∈ graph.tasks, ∀ payload left, ∃ outcome,
      (⟨task, payload, left⟩ : Visit φ).conclusion engine = .settled outcome) :
    failure.fault.kind.isExecution = true := by
  cases concludes with
  | empty => rfl
  | dangling => rfl
  | refused journey _ refuses => exact refuses.isExecution
  | @escaped _ _ visit _ journey escaped =>
    have known := journey.visited_task visit (by simp)
    obtain ⟨outcome, settles⟩ :=
      settled visit.task (TaskGraph.mem_of_get? known).1 visit.payload visit.context
    rw [escaped] at settles
    cases settles

theorem FailsOver.tellsCause {fault : Fault} {chained : Bool} {output : Value}
    {document : Json String}
    (failsOver : FailsOver engine graph input visits fault chained output)
    (blames : document.part "error" =
      .str (if fault.kind.isStructural then "structure_error" else "step_failed"))
    (original : document.part "original_error" = fault.cause.toJson) :
    document.TellsCause engine visits fault := by
  cases failsOver with
  | nowhere | dangling | unmapped =>
    constructor <;>
      simp [blames, original, FaultKind.isStructural, Fault.startTaskNotFound, Fault.taskNotFound,
        Fault.unmappedChoice, Fault.cause, Value.toJson]
  | @missed visit _ last settled missed =>
    have caused : document.part "original_error" = output.toJson := by
      rw [original, Fault.cause_stepExecution]
    constructor
    · simp [blames, FaultKind.isStructural, Fault.stepExecution]
    · simp [blames, FaultKind.isStructural, Fault.stepExecution]
    · simp [blames, FaultKind.isStructural, Fault.stepExecution]
    · intro _
      exact ⟨visit, output, last, settled, caused⟩

theorem CarriesRun.tellsFailure {result : RunResult}
    (carries : CarriesRun engine graph input context visits failure result) :
    failure.toJson.TellsFailure engine visits failure result := by
  obtain ⟨executed, attached, unsuccessful, _, _, _, failsOver⟩ := carries
  have shown : failure.toJson.part "result" = result.toJson := by
    simp [Raised.toJson, attached]
  have cause : failure.toJson.TellsCause engine visits failure.fault :=
    failsOver.tellsCause (by simp [Raised.toJson]) (by simp [Raised.toJson])
  refine ⟨attached, ?_, ?_, unsuccessful, ?_, ?_, ?_, cause⟩
  · rw [shown]
    rintro ⟨⟩
  · rw [shown]
    exact result.tells_toJson
  · simp [Raised.toJson, Raised.imageUrl?, executed, attached, Json.ofOption]
  · simp [Raised.toJson]
  · simp [Raised.toJson]

end Concludes

namespace Api

/-- The run that a request asks for: the name of a workflow, and the order unless its body is none. -/
def Request.runs? : Request → Option (String × Option RunOrder)
  | .run name body => some (name, RunOrder.ofBody? body)
  | .runText name text => some (name, (Json.parse? text).bind RunOrder.ofBody?)
  | _ => none

/-- A run is answered from the registry, whichever way its body was given, unless the body orders
none. -/
theorem App.respond_of_runs {app : App φ} (enabled : app.config.enabled = true)
    {request : Request} {name : String} {order : Option RunOrder}
    (asks : request.runs? = some (name, order)) (steps : φ → Step) (turns : Nat) :
    app.respond steps turns request =
      order.elim (.bare 400, []) fun order =>
        withWorkflow app name (runResponse app steps turns order) := by
  cases request with
  | run workflow body =>
    cases asks
    simp only [respond, enabled, if_true, runOrder, Option.bind_some]
    cases RunOrder.ofBody? body <;> rfl
  | runText workflow text =>
    cases asks
    simp only [respond, enabled, if_true, runOrder]
    cases (Json.parse? text).bind RunOrder.ofBody? <;> rfl
  | list => cases asks
  | detail workflow => cases asks
  | graph workflow format => cases asks

theorem withWorkflow_of_held {app : App φ} {name : String} {workflow : Workflow φ}
    (held : app.registry.get? name = some workflow) (next : Workflow φ → Response × List Event) :
    withWorkflow app name next = next workflow := by
  simp [withWorkflow, Registry.find, held]

theorem endingResponse_returned_iff {ending : Option (Ending φ)} :
    (endingResponse ending).status = 200 ↔ ∃ result, ending = some (.returned result) := by
  unfold endingResponse
  split
  · simp [Response.ok]
  · split <;> simp [Response.failed, Response.bare]
  · simp [Response.bare]

theorem endingResponse_failed_iff {ending : Option (Ending φ)} :
    (endingResponse ending).status = 422 ↔
      ∃ failure, ending = some (.raised failure) ∧ failure.fault.kind.isExecution = true := by
  unfold endingResponse
  split
  · simp [Response.ok]
  · split <;> simp_all [Response.failed, Response.bare]
  · simp [Response.bare]

theorem endingResponse_ne_missing (ending : Option (Ending φ)) :
    (endingResponse ending).status ≠ 404 := by
  unfold endingResponse
  split
  · simp [Response.ok]
  · split <;> simp [Response.failed, Response.bare]
  · simp [Response.bare]

/-- A response to a run order that reports the run as the engine leaves it, with the events of the
run. Documents are proper before numbers that JSON lacks are nulled. -/
structure Reports (engine : Engine φ) (graph : TaskGraph φ) (order : RunOrder) (turns : Nat)
    (response : Response) (events : List Event) : Prop where
  announced : events = (engine.run turns graph order.input order.context).events
  returned_iff : response.status = 200 ↔ ∃ result,
    (engine.run turns graph order.input order.context).ending? = some (.returned result)
  failed_iff : response.status = 422 ↔ ∃ failure,
    (engine.run turns graph order.input order.context).ending? = some (.raised failure) ∧
      failure.fault.kind.isExecution = true
  returned : ∀ result,
    (engine.run turns graph order.input order.context).ending? = some (.returned result) →
      ∃ document, response = .ok document ∧ document.Proper ∧ document.Tells result
  failed : ∀ failure,
    (engine.run turns graph order.input order.context).ending? = some (.raised failure) →
      failure.fault.kind.isExecution = true →
      ∃ document result, response = .failed document ∧ document.Proper ∧
        document.TellsFailure engine (engine.visits turns graph order.input order.context) failure
          result
  settled : (∀ task ∈ graph.tasks, ∀ payload left, ∃ outcome,
      (⟨task, payload, left⟩ : Visit φ).conclusion engine = .settled outcome) →
    ∀ ending, (engine.run turns graph order.input order.context).ending? = some ending →
      response.status = 200 ∨ response.status = 422

theorem endingResponse_reports {engine : Engine φ} (unhindered : engine.Unhindered)
    (graph : TaskGraph φ) (order : RunOrder) (turns : Nat) :
    Reports engine graph order turns
      (endingResponse (engine.run turns graph order.input order.context).ending?)
      (engine.run turns graph order.input order.context).events where
  announced := rfl
  returned_iff := endingResponse_returned_iff
  failed_iff := endingResponse_failed_iff
  returned := by
    intro result ended
    rw [ended]
    exact ⟨_, rfl, result.toJson_proper, result.tells_toJson⟩
  failed := by
    intro failure ended execution
    have concludes := Engine.concludes_of_unhindered unhindered ended
    obtain ⟨result, carries⟩ := concludes.carriesRun (concludes.isOwn_of_isExecution execution)
    rw [ended, endingResponse, if_pos execution]
    exact ⟨_, result, rfl, failure.toJson_proper, carries.tellsFailure⟩
  settled := by
    intro settled ending ended
    cases ending with
    | returned result => exact .inl (endingResponse_returned_iff.mpr ⟨result, ended⟩)
    | raised failure =>
      have concludes := Engine.concludes_of_unhindered unhindered ended
      have execution := concludes.isExecution_of_settled settled
      exact .inr (endingResponse_failed_iff.mpr ⟨failure, ended, execution⟩)

/-- A run order is answered with 404 exactly if its workflow is not registered, whatever the steps
would do. Otherwise the response reports the run of the workflow that is registered. -/
theorem run_endpoint_reports_the_engine (app : App φ) (steps : φ → Step)
    (enabled : app.config.enabled = true) (unhindered : (app.engine steps).Unhindered)
    {request : Request} {name : String} {order : RunOrder}
    (asks : request.runs? = some (name, some order)) (turns : Nat) :
    ((app.respond steps turns request).1.status = 404 ↔ app.registry.has name = false) ∧
    (app.registry.has name = false → ∀ steps turns,
      app.respond steps turns request =
        (.refused 404 (Fault.workflowNotFound name).message, [])) ∧
    ∀ workflow, app.registry.get? name = some workflow →
      Reports (app.engine steps) workflow.graph order turns (app.respond steps turns request).1
        (app.respond steps turns request).2 := by
  have answer : ∀ steps turns, app.respond steps turns request =
      withWorkflow app name (runResponse app steps turns order) := App.respond_of_runs enabled asks
  have has : app.registry.has name = (app.registry.get? name).isSome := rfl
  refine ⟨?_, ?_, ?_⟩
  · rw [answer, has]
    cases held : app.registry.get? name with
    | none => simp [withWorkflow, Registry.find, held, Response.refused]
    | some workflow =>
      rw [withWorkflow_of_held held]
      constructor
      · intro missing
        exact absurd missing (endingResponse_ne_missing _)
      · rintro ⟨⟩
  · intro absent others turns
    rw [has, Option.isSome_eq_false_iff, Option.isNone_iff_eq_none] at absent
    rw [answer]
    simp [withWorkflow, Registry.find, absent]
  · intro workflow held
    rw [answer, withWorkflow_of_held held]
    exact endingResponse_reports unhindered workflow.graph order turns

end Api

def Retry.workflow : Workflow Step := ⟨network, 0, "retry", ""⟩

def Retry.app : Api.App Step :=
  Api.Setup.app ⟨.standard, none, some ⟨.null, some .recording⟩, [workflow]⟩

def Retry.request (text : String) : Api.Request :=
  .run "retry" (.obj [("context", .obj [("reply", .str text)])])

theorem Retry.request_status :
    (Retry.app.respond id 14 (Retry.request "gone")).1.status = 422 ∧
      (Retry.app.respond id 14 (Retry.request "found")).1.status = 200 := by
  have respond : ∀ text, (Retry.app.respond id 14 (Retry.request text)).1 =
      Api.endingResponse
        (Retry.engine.run 14 (Retry.network.graph 0) .null (Retry.reply text)).ending? := by
    intro text
    rfl
  rw [respond, respond, Retry.network_graph]
  exact ⟨Api.endingResponse_failed_iff.mpr ⟨_, rfl, rfl⟩,
    Api.endingResponse_returned_iff.mpr ⟨_, rfl⟩⟩

theorem retry_run_endpoint_reports_the_engine :
    Retry.app.config.enabled = true ∧ (Retry.app.engine id).Unhindered ∧
      (Retry.request "gone").runs? = some ("retry", some ⟨.null, Retry.reply "gone"⟩) ∧
      Api.Reports (Retry.app.engine id) Retry.workflow.graph ⟨.null, Retry.reply "gone"⟩ 14
        (Retry.app.respond id 14 (Retry.request "gone")).1
        (Retry.app.respond id 14 (Retry.request "gone")).2 ∧
      (Retry.app.respond id 14 (Retry.request "gone")).1.status = 422 ∧
      (Retry.app.respond id 14 (Retry.request "found")).1.status = 200 := by
  have unhindered : (Retry.app.engine id).Unhindered := Retry.unhindered
  have asks : (Retry.request "gone").runs? = some ("retry", some ⟨.null, Retry.reply "gone"⟩) := rfl
  have reports := (Api.run_endpoint_reports_the_engine Retry.app id rfl unhindered asks 14).2.2
  exact ⟨rfl, unhindered, asks, reports Retry.workflow rfl, Retry.request_status⟩

end Flowtrace
