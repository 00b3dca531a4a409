import Flowtrace.Graph
import Flowtrace.Trace

/-! Flowcharts of task graphs. A chart is a list of lines before it is a text: the entry, then for
each task a line per edge, or a line for the bare task if no edge leaves it. A result marks the
tasks that its run entered and the edges that it followed. -/

namespace Flowtrace

namespace Diagram

/-- The identifier of a task in the chart: its name without spaces. -/
def nodeId (name : String) : String :=
  String.ofList (name.toList.map fun c => if c = ' ' then '_' else c)

structure Node where
  name : String
  isChoice : Bool
  traced : Bool
deriving DecidableEq

inductive Line where
  | entry (target : String) (marked traced : Bool)
  | node (node : Node)
  | edge (source : Node) (label : String) (kind : EdgeKind) (target : Pointer) (traced : Bool)
  | reachedEnd
  | legend
deriving DecidableEq

def startNode : String := "Start((start))"

def endNode : String := "End((end))"

def tracedMark : String := ":::traced"

def arrow (traced : Bool) : String := if traced then "==>" else "-->"

def mark (traced : Bool) : String := if traced then tracedMark else ""

/-- Activities are drawn as boxes and choices as rhombi. -/
def Node.text (node : Node) : String :=
  nodeId node.name ++
    (if node.isChoice then "\x7b" ++ node.name ++ "\x7d" else "[" ++ node.name ++ "]") ++
      mark node.traced

def edgeText (kind : EdgeKind) (label : String) : String :=
  match kind with
  | .caught => "catch " ++ label
  | .next | .choice => label

def targetText : Pointer → String
  | some name => nodeId name
  | none => endNode

def Line.text : Line → String
  | .entry target marked traced => startNode ++ mark marked ++ arrow traced ++ nodeId target
  | .node drawn => drawn.text
  | .edge source label kind target traced =>
    source.text ++ arrow traced ++ "|" ++ edgeText kind label ++ "|" ++ targetText target
  | .reachedEnd => endNode ++ tracedMark
  | .legend => "classDef traced fill:green,stroke-width:4px;"

def Line.plain : Line → Line
  | .entry target _ _ => .entry target false false
  | .node drawn => .node { drawn with traced := false }
  | .edge source label kind target _ =>
    .edge { source with traced := false } label kind target false
  | line => line

variable {φ : Type}

def nodeOf (task : Task φ) (visited : List String) : Node :=
  ⟨task.name, task.routing.isChoice, decide (task.name ∈ visited)⟩

def taskLines (visited : List String) (followed : List (String × String)) (task : Task φ) :
    List Line :=
  if task.edges.isEmpty then [.node (nodeOf task visited)]
  else task.edges.map fun edge =>
    .edge (nodeOf task visited) edge.label edge.kind edge.target
      (decide ((task.name, edge.label) ∈ followed))

def entryLines (graph : TaskGraph φ) (highlighted : Bool) : List Line :=
  match graph.startTask? with
  | some start => [.entry start.name highlighted highlighted]
  | none => []

/-- The lines that say how a highlighted run ended and what its marks mean. -/
def closingLines : Option RunResult → List Line
  | some result => (if result.success then [.reachedEnd] else []) ++ [.legend]
  | none => []

def lines (graph : TaskGraph φ) (result : Option RunResult) : List Line :=
  let visited := (result.map RunResult.visited).getD []
  let followed := (result.map RunResult.followed).getD []
  entryLines graph result.isSome ++ graph.tasks.flatMap (taskLines visited followed) ++
    closingLines result

end Diagram

def TaskGraph.flowchart {φ : Type} (graph : TaskGraph φ) (result : Option RunResult) : String :=
  "\n    ".intercalate ("flowchart TD" :: (Diagram.lines graph result).map Diagram.Line.text)

end Flowtrace
