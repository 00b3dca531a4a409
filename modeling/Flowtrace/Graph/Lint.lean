import Flowtrace.Graph
import Flowtrace.Graph.Walk

/-! Checking a graph for wiring mistakes before it is run. A run does not ask for this check: a
pointer that leads nowhere fails a run only when the run follows it. -/

namespace Flowtrace

inductive Problem where
  | noStart
  | severalStarts (flagged : List String)
  | unknownTarget (edge : Edge) (target : String)
  | noBranches (choice : String)
  | unreachable (task : String)
deriving DecidableEq

def Problem.message : Problem → String
  | .noStart => "Graph has no start task"
  | .severalStarts flagged =>
    "Several tasks are flagged as start: " ++ ", ".intercalate flagged
  | .unknownTarget edge target =>
    "Task '" ++ edge.source ++ "' " ++ edge.kind.text ++ " '" ++ edge.label ++
      "' points to unknown task '" ++ target ++ "'"
  | .noBranches choice => "Choice '" ++ choice ++ "' declares no choices"
  | .unreachable task => "Task '" ++ task ++ "' is unreachable from start task"

namespace TaskGraph

variable {φ : Type}

def targetsOf (graph : TaskGraph φ) (name : String) : List String :=
  match graph.get? name with
  | some task => task.edges.filterMap (·.target)
  | none => []

/-- The names of the tasks that a run can reach, in the order in which a walk finds them. -/
def reachable (graph : TaskGraph φ) : List String :=
  match graph.startTask? with
  | some start => Walk.order graph.names graph.targetsOf start.name
  | none => []

def startProblems (graph : TaskGraph φ) : List Problem :=
  let flagged := (graph.tasks.filter (·.start)).map (·.name)
  if 1 < flagged.length then [.severalStarts flagged] else []

def targetProblems (graph : TaskGraph φ) : List Problem :=
  graph.edges.filterMap fun edge =>
    match edge.target with
    | some target => if graph.contains target then none else some (.unknownTarget edge target)
    | none => none

def branchProblems (graph : TaskGraph φ) : List Problem :=
  graph.tasks.filterMap fun task =>
    match task.routing with
    | .choice branches => if branches.isEmpty then some (.noBranches task.name) else none
    | .activity .. => none

def reachProblems (graph : TaskGraph φ) : List Problem :=
  let reached := graph.reachable
  (graph.tasks.filter fun task => decide (task.name ∉ reached)).map fun task =>
    .unreachable task.name

/-- The problems of a graph, none if it is well formed. An empty graph has one problem only. -/
def problems (graph : TaskGraph φ) : List Problem :=
  match graph.startTask? with
  | none => [.noStart]
  | some _ =>
    graph.startProblems ++ graph.targetProblems ++ graph.branchProblems ++ graph.reachProblems

end TaskGraph

end Flowtrace
