import Flowtrace.Diagram.Url
import Flowtrace.Graph.Export
import Flowtrace.Value.Json
import Flowtrace.Workflow

/-! What the interface shows of a workflow and of a run: records of plain data, and the JSON
objects that they become. -/

namespace Flowtrace

structure WorkflowSummary where
  name : String
  description : String
  startTask : Option String
  tasks : List String
deriving DecidableEq

/-- A task, and whether it is the one that its workflow starts with. -/
structure TaskView where
  name : String
  isStart : Bool
  routing : Routing
deriving DecidableEq

structure WorkflowDetail where
  name : String
  description : String
  tasks : List TaskView
deriving DecidableEq

/-- The chart of a workflow as data, with or without its text and its addresses. -/
structure GraphView where
  chart : String
  nodes : List ExportedNode
  edges : List Edge
  imageUrl : Option String
  editorUrl : Option String
deriving DecidableEq

namespace WorkflowSummary

def ofWorkflow {φ : Type} (workflow : Workflow φ) : WorkflowSummary :=
  ⟨workflow.name, workflow.description, workflow.graph.startTask?.map (·.name),
    workflow.graph.names⟩

def toJson (summary : WorkflowSummary) : Json String :=
  .obj [("name", .str summary.name), ("description", .str summary.description),
    ("start_task", .ofOption summary.startTask), ("tasks", .arr (summary.tasks.map .str))]

end WorkflowSummary

namespace TaskView

def ofTask {φ : Type} (graph : TaskGraph φ) (task : Task φ) : TaskView :=
  ⟨task.name, graph.isStart task, task.routing⟩

def targetsJson (targets : OrderedMap String Pointer) : Json String :=
  .obj (targets.entries.map fun entry => (entry.1, .ofOption entry.2))

def toJson (task : TaskView) : Json String :=
  let (next, catches, branches) : Json String × Json String × Json String := match task.routing with
    | .activity next catches => (.ofOption next, (catches.map targetsJson).getD .null, .null)
    | .choice branches => (.null, .null, targetsJson branches)
  .obj [("name", .str task.name), ("type", .str task.routing.kindText),
    ("start", .bool task.isStart), ("then", next), ("catch", catches), ("choices", branches)]

end TaskView

namespace WorkflowDetail

def ofWorkflow {φ : Type} (workflow : Workflow φ) : WorkflowDetail :=
  ⟨workflow.name, workflow.description,
    workflow.graph.tasks.map (TaskView.ofTask workflow.graph)⟩

def toJson (detail : WorkflowDetail) : Json String :=
  .obj [("name", .str detail.name), ("description", .str detail.description),
    ("tasks", .arr (detail.tasks.map TaskView.toJson))]

end WorkflowDetail

namespace GraphView

def bare {φ : Type} (graph : TaskGraph φ) : GraphView :=
  ⟨"", graph.exportedNodes, graph.exportedEdges, none, none⟩

def charted {φ : Type} (graph : TaskGraph φ) : GraphView :=
  { bare graph with
    chart := graph.flowchart none
    imageUrl := some (Diagram.imageUrl (graph.flowchart none))
    editorUrl := some (Diagram.editorUrl (graph.flowchart none)) }

def nodeJson (node : ExportedNode) : Json String :=
  .obj [("id", .str node.id), ("label", .str node.label), ("type", .str node.kind),
    ("is_start", .bool node.isStart)]

def edgeJson (edge : Edge) : Json String :=
  .obj [("source", .str edge.source), ("target", .ofOption edge.target),
    ("label", .str edge.label), ("kind", .str edge.kind.text)]

def toJson (view : GraphView) : Json String :=
  .obj [("mermaid_source", .str view.chart), ("nodes", .arr (view.nodes.map nodeJson)),
    ("edges", .arr (view.edges.map edgeJson)), ("png_url", .ofOption view.imageUrl),
    ("live_edit_url", .ofOption view.editorUrl)]

end GraphView

namespace Transition

def toJson (transition : Transition) : Json String :=
  .obj [("label", .str transition.label), ("source", .ofOption transition.source),
    ("destination", .ofOption transition.destination), ("payload", transition.payload.toJson),
    ("edge", .ofOption transition.edge)]

end Transition

namespace RunResult

def toJson (result : RunResult) : Json String :=
  .obj [("success", .bool result.success),
    ("transitions", .arr (result.transitions.map Transition.toJson)),
    ("output", result.output.toJson), ("context", (Value.dict result.context).toJson)]

end RunResult

namespace Raised

/-- A fault of the graph is told apart from a step that failed. -/
def toJson {φ : Type} (error : Raised φ) : Json String :=
  .obj [("error", .str (if error.fault.kind.isStructural then "structure_error" else "step_failed")),
    ("error_type", .str error.fault.className), ("message", .str error.fault.message),
    ("original_error", error.fault.cause.toJson),
    ("result", (error.result.map RunResult.toJson).getD .null),
    ("diagram_url", .ofOption error.imageUrl?)]

end Raised

end Flowtrace
