import Flowtrace.Run
import Flowtrace.Script.Eval

/-! The step that a script stands for. A script may run graphs whose steps are scripts again, so
its meaning is given up to a budget, which bounds the depth of such runs and the turns of each.
A script that needs more than its budget stalls, like one that waits for ever. -/

namespace Flowtrace.Script

structure Progress where
  settlement : Option Settlement
  context : Context
  notes : List Note

namespace Progress

def goOn (context : Context) : Progress := ⟨none, context, []⟩

def stop (settlement : Settlement) (context : Context) : Progress := ⟨some settlement, context, []⟩

/-- Goes on with the value of an expression, or stops at its fault. -/
def withValue (value : Except Fault Value) (context : Context) (next : Value → Progress) :
    Progress :=
  match value with
  | .ok value => next value
  | .error fault => .stop (.raised fault) context

end Progress

/-- Anything that is not a fault cannot be raised, which is a fault of its own. -/
def faultRaisedBy (value : Value) : Fault :=
  match value.toFault? with
  | some fault => fault
  | none => .typeError "exceptions must derive from BaseException"

/-- How a run inside a step settles, and its notes. -/
abbrev InnerRun := List (Task Script) → Value → Context → Settlement × List Note

/-- The output of an inner run becomes an entry of the context, and its fault the step's own. -/
def afterInner (inner : Settlement × List Note) (key : String) (context : Context) : Progress :=
  match inner.1 with
  | .returned output => ⟨none, context.set key output, inner.2⟩
  | settlement => ⟨some settlement, context, inner.2⟩

mutual

def performOne (inner : InnerRun) (input : Value) (context : Context) : Statement → Progress
  | .give value =>
    .withValue (value.eval input context) context fun value => .stop (.returned value) context
  | .raise fault =>
    .withValue (fault.eval input context) context fun value =>
      .stop (.raised (faultRaisedBy value)) context
  | .set key value =>
    .withValue (value.eval input context) context fun value => .goOn (context.set key value)
  | .delete key =>
    match context.get? key with
    | some _ => .goOn (context.erase key)
    | none => .stop (.raised (.exception "KeyError" key)) context
  | .branch condition onTrue otherwise =>
    match condition.eval input context with
    | .ok value =>
      if Expr.isTrue value then performAll inner input context onTrue
      else performAll inner input context otherwise
    | .error fault => .stop (.raised fault) context
  | .pause => .goOn context
  | .hang => .stop .stalled context
  | .run tasks argument key =>
    .withValue (argument.eval input context) context fun value =>
      afterInner (inner tasks value context) key context

def performAll (inner : InnerRun) (input : Value) (context : Context) : List Statement → Progress
  | [] => .goOn context
  | statement :: statements =>
    let progress := performOne inner input context statement
    match progress.settlement with
    | some _ => progress
    | none =>
      let rest := performAll inner input progress.context statements
      { rest with notes := progress.notes ++ rest.notes }

end

/-- A script that ends without returning returns nothing. -/
def settlementOf (progress : Progress) : Settlement :=
  progress.settlement.getD (.returned .null)

/-- What an awaited script raises passes through the wait for it. -/
def awaitedSettlement (mode : StepMode) : Settlement → Settlement
  | .raised fault => .raised (match mode with | .awaited => fault.awaited | .direct => fault)
  | settlement => settlement

def settlementOfRun (run : Run Script) : Settlement :=
  match run.ending? with
  | some (.returned result) => .returned result.output
  | some (.raised error) => .raised error.fault
  | none => .stalled

def behave : Nat → Script → Value → Context → Behaviour
  | 0, _, _, context => ⟨.stalled, context, []⟩
  | budget + 1, script, input, context =>
    let inner : InnerRun := fun tasks argument context =>
      let engine : Engine Script :=
        ⟨fun script => ⟨script.mode, behave budget script⟩, none, none⟩
      let run := engine.run budget (.ofList tasks) argument context
      (settlementOfRun run, run.notes)
    let progress := performAll inner input context script.body
    ⟨awaitedSettlement script.mode (settlementOf progress), progress.context, progress.notes⟩

def toStep (budget : Nat) (script : Script) : Step := ⟨script.mode, behave budget script⟩

end Flowtrace.Script
