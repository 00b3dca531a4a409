import Flowtrace.Value

/-! The events that a run announces, and the bus that takes them. -/

namespace Flowtrace

inductive EventKind where
  | workflowStarted
  | stepStarted
  | stepCompleted
  | stepFailed
  | workflowFailed
  | workflowCompleted
deriving DecidableEq

namespace EventKind

def all : List EventKind :=
  [.workflowStarted, .stepStarted, .stepCompleted, .stepFailed, .workflowFailed, .workflowCompleted]

def text : EventKind → String
  | .workflowStarted => "workflow.started"
  | .stepStarted => "step.started"
  | .stepCompleted => "step.completed"
  | .stepFailed => "step.failed"
  | .workflowFailed => "workflow.failed"
  | .workflowCompleted => "workflow.completed"

def ofText? (text : String) : Option EventKind := all.find? fun kind => kind.text == text

end EventKind

inductive Event where
  | workflowStarted (task : String)
  | stepStarted (task : String)
  | stepCompleted (task : String)
  | stepFailed (task message : String)
  | workflowFailed (message className : String) (step : Option String)
  | workflowCompleted (output : Value)

namespace Event

def kind : Event → EventKind
  | .workflowStarted _ => .workflowStarted
  | .stepStarted _ => .stepStarted
  | .stepCompleted _ => .stepCompleted
  | .stepFailed .. => .stepFailed
  | .workflowFailed .. => .workflowFailed
  | .workflowCompleted _ => .workflowCompleted

def fields : Event → List (String × Value)
  | .workflowStarted task => [("start_task", .text task)]
  | .stepStarted task | .stepCompleted task => [("step_name", .text task)]
  | .stepFailed task message => [("step_name", .text task), ("error", .text message)]
  | .workflowFailed message className step =>
    [("error", .text message), ("error_type", .text className),
      ("failed_step", match step with | some task => .text task | none => .null)]
  | .workflowCompleted output => [("output", output)]

end Event

/-- A bus records every event that it is told, and may refuse an event by raising a fault. A bus
that does not listen is told nothing. -/
structure Bus where
  listens : Bool
  refusal : EventKind → Option Fault

namespace Bus

def recording : Bus := ⟨true, fun _ => none⟩

def deaf : Bus := ⟨false, fun _ => none⟩

def refusing (kind : EventKind) (fault : Fault) : Bus :=
  ⟨true, fun announced => if announced = kind then some fault else none⟩

end Bus

end Flowtrace
