import Flowtrace.Graph.Task
import Flowtrace.Value

/-! What a run leaves behind: the moves it made, and its result. Moves name the tasks they leave
and enter, so a trace can be read beside any graph. -/

namespace Flowtrace

/-- One move of a run. The entry leaves no task and follows no edge; the move out of the last
task enters none, and keeps the edge that it followed to the end. -/
structure Transition where
  label : String
  source : Option String
  destination : Option String
  edge : Option String
  payload : Value

/-- A successful result, or what a failed run had done when it failed. -/
structure RunResult where
  success : Bool
  transitions : List Transition
  output : Value
  context : Context

namespace Transition

def entry (task : String) (payload : Value) : Transition :=
  ⟨startLabel, none, some task, none, payload⟩

def move (source edge destination : String) (payload : Value) : Transition :=
  ⟨edge, some source, some destination, some edge, payload⟩

def exit (source edge : String) (payload : Value) : Transition :=
  ⟨endLabel, some source, none, some edge, payload⟩

def followed? (transition : Transition) : Option (String × String) :=
  match transition.source, transition.edge with
  | some source, some edge => some (source, edge)
  | _, _ => none

end Transition

namespace RunResult

def visited (result : RunResult) : List String := result.transitions.filterMap (·.destination)

def lastVisited? (result : RunResult) : Option String := result.visited.getLast?

def followed (result : RunResult) : List (String × String) :=
  result.transitions.filterMap Transition.followed?

end RunResult

end Flowtrace
