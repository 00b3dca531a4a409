import Flowtrace.Value.Text

/-! What runs, registries and applications write to the log. -/

namespace Flowtrace

inductive Level where
  | debug
  | info
  | warning
deriving DecidableEq

def Level.text : Level → String
  | .debug => "DEBUG"
  | .info => "INFO"
  | .warning => "WARNING"

inductive Note where
  | runStarting (task : String)
  | taskRunning (task : String)
  | taskSucceeded (task : String) (value : Value)
  | taskFailed (task : String) (error : Value)
  | failureCaught (task pattern : String)
  | runFailed (message : String)
  | runTraced (labels : List String)
  | runCompleted (moves : Nat)
  | workflowAdded (workflow : String)
  | workflowReplaced (workflow : String)
  | workflowRemoved (workflow : String)
  | workflowsListed (workflows : List String)
  | apiMounted (path : String)

namespace Note

def level : Note → Level
  | .runFailed _ => .warning
  | .runCompleted _ => .info
  | _ => .debug

def quotedNames (names : List String) : String := (Value.list (names.map .text)).plain

/-- The text of a note. Runs are told apart by the given name of the run. -/
def message (run : String) : Note → String
  | .runStarting task => "Execution " ++ run ++ " starting at task '" ++ task ++ "'"
  | .taskRunning task => "Execution " ++ run ++ " running task '" ++ task ++ "'"
  | .taskSucceeded task value => "Task '" ++ task ++ "' succeeded with " ++ value.quoted
  | .taskFailed task error => "Task '" ++ task ++ "' failed with " ++ error.quoted
  | .failureCaught task pattern =>
    "Task '" ++ task ++ "' failure caught by '" ++ pattern ++ "'"
  | .runFailed message => "Execution " ++ run ++ " failed: " ++ message
  | .runTraced labels => "Execution " ++ run ++ " trace: " ++ quotedNames labels
  | .runCompleted moves =>
    "Execution " ++ run ++ " completed after " ++ toString moves ++ " transitions"
  | .workflowAdded workflow => "Registered workflow '" ++ workflow ++ "'"
  | .workflowReplaced workflow => "Replacing workflow '" ++ workflow ++ "'"
  | .workflowRemoved workflow => "Unregistered workflow '" ++ workflow ++ "'"
  | .workflowsListed workflows => "Registered workflows: " ++ quotedNames workflows
  | .apiMounted path => "Workflow API mounted at '" ++ path ++ "'"

end Note

end Flowtrace
