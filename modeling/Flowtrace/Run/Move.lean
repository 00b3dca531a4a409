import Flowtrace.Graph
import Flowtrace.Step
import Flowtrace.Value.Description

/-! Where a settled task goes next. The decision depends on the task, the payload it was given and
its outcome alone; whether the named successor exists is for the run to find out. -/

namespace Flowtrace

/-- A move to a task carries a payload, which for a choice is not what the choice produced. A
refusal ends the run, with the value that could not be routed. -/
inductive Move where
  | follow (edge target : String) (produced carried : Value)
  | leave (edge : String) (output : Value)
  | refuse (fault : Fault) (output : Value) (chained : Bool)

namespace Move

def along (edge : String) (target : Pointer) (produced carried : Value) : Move :=
  match target with
  | some name => .follow edge name produced carried
  | none => .leave edge produced

end Move

namespace Task

variable {φ : Type}

def catchFor? (task : Task φ) (error : Value) : Option (String × Pointer) :=
  task.routing.catchEntries.find? fun entry => error.isCaughtBy entry.1

def unhandledReason (task : Task φ) : String :=
  match task.routing with
  | .choice _ => "choices cannot catch failures"
  | .activity _ none => "no catch entries"
  | .activity _ (some _) => "no matching catch"

/-- An activity passes on its value. A choice selects a branch by the text of its value and
passes on its own payload, except that at the end its value is the output. -/
def afterSuccess (task : Task φ) (payload value : Value) : Move :=
  match task.routing with
  | .activity next _ => .along thenLabel next value value
  | .choice branches =>
    match branches.get? value.plain with
    | some target => .along value.plain target value payload
    | none => .refuse (.unmappedChoice task.name value.plain) value false

/-- The first matching catch entry hands the failure on, behind the pattern that caught it. -/
def afterFailure (task : Task φ) (error : Value) : Move :=
  match task.catchFor? error with
  | some (pattern, target) => .along pattern target (.caught pattern error) (.caught pattern error)
  | none =>
    .refuse (.stepExecution task.name error (some task.unhandledReason)) error
      error.toFault?.isSome

def nextMove (task : Task φ) (payload : Value) : Outcome → Move
  | .success value => task.afterSuccess payload value
  | .failure error => task.afterFailure error

def catchNotes (task : Task φ) : Outcome → List Note
  | .success _ => []
  | .failure error =>
    match task.catchFor? error with
    | some (pattern, _) => [.failureCaught task.name pattern]
    | none => []

end Task

end Flowtrace
