import Flowtrace.Diagram

/-! A graph as plain data: its nodes and its edges, for programs that draw their own chart. -/

namespace Flowtrace

structure ExportedNode where
  id : String
  label : String
  kind : String
  isStart : Bool
deriving DecidableEq

namespace TaskGraph

variable {φ : Type}

def exportedNodes (graph : TaskGraph φ) : List ExportedNode :=
  graph.tasks.map fun task =>
    ⟨Diagram.nodeId task.name, task.name, task.routing.kindText, graph.isStart task⟩

/-- Edges keep the names of the tasks that they join. -/
def exportedEdges (graph : TaskGraph φ) : List Edge := graph.edges

end TaskGraph

end Flowtrace
