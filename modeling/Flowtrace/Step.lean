import Flowtrace.Note
import Flowtrace.Value

/-! Steps and how they settle. A step is called with a payload and the context of its run. It
returns a value, raises a fault, or never settles; whatever it does, it leaves a context. -/

namespace Flowtrace

/-- A direct step settles before anything else happens. An awaited step is waited for, which
makes it subject to a deadline. -/
inductive StepMode where
  | direct
  | awaited
deriving DecidableEq

inductive Settlement where
  | returned (value : Value)
  | raised (fault : Fault)
  | stalled

/-- What one call of a step does. The notes are those of the runs that the step starts itself. -/
structure Behaviour where
  settlement : Settlement
  context : Context
  notes : List Note

structure Step where
  mode : StepMode
  act : Value → Context → Behaviour

/-- A deadline that has passed before the step begins, or one that lies ahead. -/
inductive Deadline where
  | passed
  | ahead
deriving DecidableEq

def Deadline.ofTimeout? : Value → Option Deadline
  | .null => none
  | .bool seconds => some (if seconds then .ahead else .passed)
  | .int seconds => some (if 0 < seconds then .ahead else .passed)
  | .float seconds => some (if seconds.isPositive || seconds.isNaN then .ahead else .passed)
  | _ => some .ahead

/-- How a settled step counts for routing. -/
inductive Outcome where
  | success (value : Value)
  | failure (error : Value)

def Outcome.toValue : Outcome → Value
  | .success value => .success value
  | .failure error => .failure error

/-- What a run makes of a call: an outcome to route, a fault that nothing handles, or a wait
without end. -/
inductive Conclusion where
  | settled (outcome : Outcome)
  | escaped (fault : Fault)
  | stalled

namespace Settlement

/-- A step that returns an outcome settles with that outcome, any other value is a success, and a
raised fault is a failure unless it is an abort. -/
def conclusion : Settlement → Conclusion
  | .returned (.success value) => .settled (.success value)
  | .returned (.failure error) => .settled (.failure error)
  | .returned value => .settled (.success value)
  | .raised fault => if fault.kind.isAbort then .escaped fault else .settled (.failure fault.toValue)
  | .stalled => .stalled

end Settlement

namespace Behaviour

/-- A stalled step is given up at its deadline. The context keeps what it wrote until then. -/
def givenUp (behaviour : Behaviour) : Behaviour :=
  match behaviour.settlement with
  | .stalled => { behaviour with settlement := .raised .timeout }
  | _ => behaviour

end Behaviour

namespace Step

/-- Calls a step under a deadline. Under one that has passed an awaited step fails before it
begins; a direct step never notices a deadline. -/
def perform (step : Step) (deadline : Option Deadline) (payload : Value) (context : Context) :
    Behaviour :=
  match step.mode, deadline with
  | .awaited, some .passed => ⟨.raised .timeout, context, []⟩
  | .awaited, some .ahead => (step.act payload context).givenUp
  | _, _ => step.act payload context

end Step

end Flowtrace
