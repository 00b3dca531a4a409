import Flowtrace.Proofs.ExportedGraph
import Flowtrace.Proofs.RunEndpoint
import Flowtrace.Proofs.TracePath

/-! The views of a workflow. The listing, the detail and the chart are made by different functions,
and a run chooses its first task by itself. All of them read one graph, so they name the same tasks
in the same order, agree on the task to start with, and show the same edges. -/

namespace Flowtrace

variable {φ : Type}

namespace TaskGraph

/-- Names are distinct, so a name picks one task. -/
theorem filter_name {graph : TaskGraph φ} {task : Task φ} (member : task ∈ graph.tasks) :
    graph.tasks.filter (fun other => task.name == other.name) = [task] := by
  have once : graph.tasks.Nodup := List.Nodup.of_map _ graph.distinct
  rw [filter_eq_singleton_iff once member]
  intro other among
  rw [beq_iff_eq]
  constructor
  · intro same
    exact List.inj_on_of_nodup_map graph.distinct among member same.symm
  · rintro rfl
    rfl

theorem filter_isStart {graph : TaskGraph φ} {start : Task φ}
    (selected : graph.startTask? = some start) : graph.tasks.filter graph.isStart = [start] := by
  rw [← filter_name (startTask?_mem selected)]
  congr 1
  funext task
  simp [isStart, selected]

end TaskGraph

namespace Api

open Response

theorem summary_spellable (summary : WorkflowSummary) :
    spellable summary.toJson = summary.toJson := by
  simp [WorkflowSummary.toJson, Function.comp_def]

theorem targets_spellable (targets : OrderedMap String Pointer) :
    spellable (TaskView.targetsJson targets) = TaskView.targetsJson targets := by
  simp [TaskView.targetsJson, Function.comp_def]

theorem task_spellable (task : TaskView) : spellable task.toJson = task.toJson := by
  obtain ⟨name, isStart, routing⟩ := task
  cases routing with
  | choice branches => simp [TaskView.toJson, targets_spellable]
  | activity next catches =>
    cases catches with
    | none => simp [TaskView.toJson]
    | some catches => simp [TaskView.toJson, targets_spellable]

theorem detail_spellable (detail : WorkflowDetail) : spellable detail.toJson = detail.toJson := by
  simp [WorkflowDetail.toJson, Function.comp_def, task_spellable]

theorem graph_spellable (view : GraphView) : spellable view.toJson = view.toJson := by
  simp [GraphView.toJson, GraphView.nodeJson, GraphView.edgeJson, Function.comp_def]

end Api

def Json.edge (source target : Json String) (label kind : String) : Json String :=
  .obj [("source", source), ("target", target), ("label", .str label), ("kind", .str kind)]

def Json.declaredEdges (task : Json String) : List (Json String) :=
  match task.part "type" with
  | .str "choice" =>
    (task.part "choices").fields.map fun branch =>
      edge (task.part "name") branch.2 branch.1 "choice"
  | _ =>
    edge (task.part "name") (task.part "then") "then" "then" ::
      (task.part "catch").fields.map fun entry =>
        edge (task.part "name") entry.2 entry.1 "catch"

theorem TaskView.declaredEdges_toJson (graph : TaskGraph φ) (task : Task φ) :
    (TaskView.ofTask graph task).toJson.declaredEdges = task.edges.map GraphView.edgeJson := by
  obtain ⟨name, step, routing, start⟩ := task
  cases routing with
  | choice branches =>
    simp [Json.declaredEdges, TaskView.ofTask, TaskView.toJson, Task.edges, Json.edge,
      GraphView.edgeJson, TaskView.targetsJson, Routing.kindText, EdgeKind.text]
  | activity next catches =>
    cases catches with
    | none =>
      simp [Json.declaredEdges, TaskView.ofTask, TaskView.toJson, Task.edges, Json.edge,
        GraphView.edgeJson, Routing.kindText, EdgeKind.text, thenLabel]
    | some catches =>
      simp [Json.declaredEdges, TaskView.ofTask, TaskView.toJson, Task.edges, Json.edge,
        GraphView.edgeJson, TaskView.targetsJson, Routing.kindText, EdgeKind.text, thenLabel]

namespace Api

open Response

def opening (result : Json String) : Json String :=
  ((result.part "transitions").items.head?.map (·.part "destination")).getD .null

structure ViewsAgree (listed detail chart : Json String) : Prop where
  named : (detail.part "tasks").items.map (·.part "name") = (listed.part "tasks").items
  labelled : (chart.part "nodes").items.map (·.part "label") = (listed.part "tasks").items
  startTask : ((detail.part "tasks").items.filter fun task => (task.part "start").holds).map
    (·.part "name") = [listed.part "start_task"]
  startNode : ((chart.part "nodes").items.filter fun node => (node.part "is_start").holds).map
    (·.part "label") = [listed.part "start_task"]
  edges : (chart.part "edges").items = (detail.part "tasks").items.flatMap Json.declaredEdges

section Views

variable {workflow : Workflow φ} {start : Task φ}

theorem tasks_of_detail (workflow : Workflow φ) :
    ((WorkflowDetail.ofWorkflow workflow).toJson.part "tasks").items =
      workflow.graph.tasks.map fun task => (TaskView.ofTask workflow.graph task).toJson := by
  simp [WorkflowDetail.toJson, WorkflowDetail.ofWorkflow]

theorem name_of_task (task : TaskView) : task.toJson.part "name" = .str task.name := by
  simp [TaskView.toJson]

theorem start_of_task (task : TaskView) : task.toJson.part "start" = .bool task.isStart := by
  simp [TaskView.toJson]

/-- Whatever else a chart shows, its nodes and edges are those of the graph. -/
theorem ViewsAgree.ofWorkflow (selected : workflow.graph.startTask? = some start) {view : GraphView}
    (nodes : view.nodes = workflow.graph.exportedNodes)
    (edges : view.edges = workflow.graph.exportedEdges) :
    ViewsAgree (WorkflowSummary.ofWorkflow workflow).toJson
      (WorkflowDetail.ofWorkflow workflow).toJson view.toJson := by
  have listed : (WorkflowSummary.ofWorkflow workflow).toJson.part "start_task" =
      .str start.name := by
    simp [WorkflowSummary.toJson, WorkflowSummary.ofWorkflow, selected, Json.ofOption]
  have names : ((WorkflowSummary.ofWorkflow workflow).toJson.part "tasks").items =
      workflow.graph.tasks.map fun task => .str task.name := by
    simp [WorkflowSummary.toJson, WorkflowSummary.ofWorkflow, TaskGraph.names, Function.comp_def]
  have charted : (view.toJson.part "nodes").items =
      workflow.graph.exportedNodes.map GraphView.nodeJson := by
    simp [GraphView.toJson, nodes]
  have drawn : (view.toJson.part "edges").items =
      workflow.graph.edges.map GraphView.edgeJson := by
    simp [GraphView.toJson, edges, TaskGraph.exportedEdges]
  constructor
  · rw [tasks_of_detail, names]
    simp [name_of_task, TaskView.ofTask]
  · rw [charted, names]
    simp [TaskGraph.exportedNodes, GraphView.nodeJson]
  · rw [tasks_of_detail, listed, List.filter_map, List.map_map]
    simp [Function.comp_def, start_of_task, name_of_task, TaskView.ofTask,
      TaskGraph.filter_isStart selected]
  · rw [charted, listed]
    simp [TaskGraph.exportedNodes, GraphView.nodeJson, List.filter_map, Function.comp_def,
      TaskGraph.filter_isStart selected]
  · rw [drawn, tasks_of_detail, TaskGraph.edges, List.map_flatMap, List.flatMap_map]
    simp only [TaskView.declaredEdges_toJson]

/-- Whichever way a run ends, a result that it reports enters the start task first. -/
theorem opening_of_reported {engine : Engine φ} {graph : TaskGraph φ} {input : Value}
    {context : Context} {visits : List (Visit φ)} {ending : Ending φ} {result : RunResult}
    (concludes : Concludes engine graph input context visits ending)
    (reported : ending.result? = some result) (selected : graph.startTask? = some start) :
    opening (spellable result.toJson) = .str start.name := by
  have inhabited : graph.tasks ≠ [] := List.ne_nil_of_mem (TaskGraph.startTask?_mem selected)
  obtain ⟨task, first, also, entered, _, _, _, destination⟩ :=
    (concludes.isPath reported).entry inhabited
  obtain rfl : start = task := Option.some.inj (selected.symm.trans also)
  have transitions : (result.toJson.part "transitions").items =
      result.transitions.map Transition.toJson := by
    simp [RunResult.toJson]
  have head : result.transitions.head? = some first := by rw [List.head?_eq_getElem?, entered]
  have shown : first.toJson.part "destination" = .str start.name := by
    simp [Transition.toJson, destination, Json.ofOption]
  simp [opening, part_spellable, items_spellable, transitions, head, shown]

end Views

/-- The responses that show the workflow of a name: the listing at its position, its detail, and its
chart in both formats, the first of which is also the default. -/
structure Shows (app : App φ) (steps : φ → Step) (turns position : Nat) (name : String)
    (listed detail chart bare : Json String) : Prop where
  listing : ∃ listing, (app.respond steps turns .list).1 = ⟨200, some listing⟩ ∧
    listing.items[position]? = some listed
  detail : (app.respond steps turns (.detail name)).1 = ⟨200, some detail⟩
  default : (app.respond steps turns (.graph name none)).1 = ⟨200, some chart⟩
  chart : (app.respond steps turns (.graph name (some "mermaid"))).1 = ⟨200, some chart⟩
  bare : (app.respond steps turns (.graph name (some "json"))).1 = ⟨200, some bare⟩

theorem App.shows {app : App φ} (enabled : app.config.enabled = true) {position : Nat}
    {name : String} {workflow : Workflow φ}
    (registered : app.registry.held.entries[position]? = some (name, workflow))
    (steps : φ → Step) (turns : Nat) :
    Shows app steps turns position name (WorkflowSummary.ofWorkflow workflow).toJson
      (WorkflowDetail.ofWorkflow workflow).toJson (GraphView.charted workflow.graph).toJson
      (GraphView.bare workflow.graph).toJson := by
  have held : app.registry.get? name = some workflow :=
    (app.registry.held.get?_eq_some_iff name workflow).mpr (List.mem_of_getElem? registered)
  have listed : app.registry.list[position]? = some workflow := by
    simp [Registry.list, OrderedMap.values, registered]
  constructor
  case listing =>
    simp only [respond, enabled, if_true, Response.ok]
    exact ⟨_, rfl, by simp [listed, summary_spellable]⟩
  case detail => simp [respond, enabled, withWorkflow_of_held held, Response.ok, detail_spellable]
  all_goals
    simp [respond, enabled, withWorkflow_of_held held, graphResponse, Response.ok, graph_spellable]

/-- The response to a run enters a task first, if it tells of a run at all. -/
structure Opens (response : Response) (start : String) : Prop where
  returned : response.status = 200 → ∃ body, response.body = some body ∧
    opening body = .str start
  failed : response.status = 422 → ∃ body, response.body = some body ∧
    opening (body.part "result") = .str start

theorem App.opens {app : App φ} (enabled : app.config.enabled = true) {steps : φ → Step}
    (unhindered : (app.engine steps).Unhindered) {name : String} {workflow : Workflow φ}
    (held : app.registry.get? name = some workflow) {start : Task φ}
    (selected : workflow.graph.startTask? = some start) {request : Request}
    {order : Option RunOrder} (asks : request.runs? = some (name, order)) (turns : Nat) :
    Opens (app.respond steps turns request).1 start.name := by
  cases order with
  | none =>
    rw [respond_of_runs enabled asks]
    constructor <;> rintro ⟨⟩
  | some order =>
    rw [respond_of_runs enabled asks, Option.elim_some, withWorkflow_of_held held]
    constructor
    · intro status
      obtain ⟨result, ended⟩ := endingResponse_returned_iff.mp status
      have concludes := Engine.concludes_of_unhindered unhindered ended
      refine ⟨spellable result.toJson, ?_, opening_of_reported concludes rfl selected⟩
      rw [runResponse, ended]
      rfl
    · intro status
      obtain ⟨failure, ended, execution⟩ := endingResponse_failed_iff.mp status
      have concludes := Engine.concludes_of_unhindered unhindered ended
      obtain ⟨result, reported⟩ := concludes.reports (concludes.isOwn_of_isExecution execution)
      have attached : failure.result = some result := reported
      refine ⟨spellable failure.toJson, ?_, ?_⟩
      · rw [runResponse, ended, endingResponse, if_pos execution]
        rfl
      · have shown : failure.toJson.part "result" = result.toJson := by
          simp [Raised.toJson, attached]
        rw [part_spellable, shown]
        exact opening_of_reported concludes reported selected

/-- Every registered workflow is shown alike by the listing, the detail and both formats of the
chart, and every run of it that succeeds or fails with a fault that runs report enters the start
task that they name first. -/
theorem views_agree (app : App φ) (steps : φ → Step) (enabled : app.config.enabled = true)
    (unhindered : (app.engine steps).Unhindered) {position : Nat} {name : String}
    {workflow : Workflow φ}
    (registered : app.registry.held.entries[position]? = some (name, workflow))
    (inside : workflow.root < workflow.network.size) :
    ∃ listed detail chart bare start,
      (∀ turns, Shows app steps turns position name listed detail chart bare) ∧
      ViewsAgree listed detail chart ∧ ViewsAgree listed detail bare ∧
      listed.part "start_task" = .str start ∧
      ∀ request order, request.runs? = some (name, order) → ∀ turns,
        Opens (app.respond steps turns request).1 start := by
  have held : app.registry.get? name = some workflow :=
    (app.registry.held.get?_eq_some_iff name workflow).mpr (List.mem_of_getElem? registered)
  have inhabited : workflow.graph.tasks ≠ [] := (Network.closed_graph inside).inhabited
  obtain ⟨start, selected⟩ : ∃ start, workflow.graph.startTask? = some start := by
    rw [← Option.ne_none_iff_exists']
    exact fun missing => inhabited (TaskGraph.startTask?_eq_none.mp missing)
  refine ⟨_, _, _, _, start.name, App.shows enabled registered steps, .ofWorkflow selected rfl rfl,
    .ofWorkflow selected rfl rfl, ?_, ?_⟩
  · simp [WorkflowSummary.toJson, WorkflowSummary.ofWorkflow, selected, Json.ofOption]
  · intro request order asks turns
    exact App.opens enabled unhindered held selected asks turns

end Api

theorem retry_views_agree :
    Retry.app.config.enabled = true ∧ (Retry.app.engine id).Unhindered ∧
      Retry.app.registry.held.entries[0]? = some ("retry", Retry.workflow) ∧
      Retry.workflow.root < Retry.workflow.network.size ∧
      (∃ listed detail chart bare start,
        (∀ turns, Api.Shows Retry.app id turns 0 "retry" listed detail chart bare) ∧
        Api.ViewsAgree listed detail chart ∧ Api.ViewsAgree listed detail bare ∧
        listed.part "start_task" = .str start ∧
        ∀ text turns, Api.Opens (Retry.app.respond id turns (Retry.request text)).1 start) ∧
      (Retry.app.respond id 14 (Retry.request "gone")).1.status = 422 ∧
      (Retry.app.respond id 14 (Retry.request "found")).1.status = 200 := by
  have inside : Retry.workflow.root < Retry.workflow.network.size := by decide
  have registered : Retry.app.registry.held.entries[0]? = some ("retry", Retry.workflow) := rfl
  obtain ⟨listed, detail, chart, bare, start, shows, charted, drawn, named, opens⟩ :=
    Api.views_agree Retry.app id rfl Retry.unhindered registered inside
  refine ⟨rfl, Retry.unhindered, registered, inside, ?_, Retry.request_status⟩
  exact ⟨listed, detail, chart, bare, start, shows, charted, drawn, named,
    fun text turns => opens _ _ rfl turns⟩

end Flowtrace
