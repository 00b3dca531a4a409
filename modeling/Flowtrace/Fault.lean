import Flowtrace.Value.Text

/-! Faults by the name of their class and the arguments they are made with. -/

namespace Flowtrace.Fault

/-- Classes of this library take their own arguments in order; every other class keeps whatever
arguments it is given. -/
def ofClass (className : String) (arguments : List Value) : Fault :=
  match className, arguments with
  | "Abort", details => ⟨.abort, details⟩
  | "WorkflowsError", details => ⟨.workflows, details⟩
  | "WorkflowNotFoundError", workflow :: _ => .workflowNotFound workflow.plain
  | "WorkflowExecutionError", message :: _ => ⟨.execution message.plain, []⟩
  | "WorkflowStructureError", message :: _ => ⟨.structural message.plain, []⟩
  | "StartTaskNotFoundError", _ => .startTaskNotFound
  | "TaskNotFoundError", task :: _ => .taskNotFound task.plain
  | "UnmappedChoiceError", choice :: key :: _ => .unmappedChoice choice.plain key.plain
  | "StepExecutionError", [step] => .stepExecution step.plain .null none
  | "StepExecutionError", [step, cause] => .stepExecution step.plain cause none
  | "StepExecutionError", step :: cause :: reason :: _ =>
    .stepExecution step.plain cause (if reason.isNull then none else some reason.plain)
  | className, details => ⟨.exception className, details⟩

/-- The arguments a fault shows: those it was made with, or its message alone. -/
def arguments (fault : Fault) : List Value :=
  if fault.kind.showsArguments then fault.details else [.text fault.message]

/-- The failure behind a failed step. -/
def cause (fault : Fault) : Value :=
  match fault.kind.root, fault.details with
  | .stepExecution .., cause :: _ => cause
  | _, _ => .null

/-- The names that a fault of this library is about, each with the role it plays. -/
def attributes (fault : Fault) : List (String × String) :=
  match fault.kind.root with
  | .workflowNotFound workflow => [("name", workflow)]
  | .taskNotFound task => [("task_name", task)]
  | .unmappedChoice choice key => [("choice_name", choice), ("key", key)]
  | .stepExecution step _ => [("step_name", step)]
  | _ => []

end Flowtrace.Fault
