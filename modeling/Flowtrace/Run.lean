import Flowtrace.Event
import Flowtrace.Raised
import Flowtrace.Run.Move

/-! Runs of task graphs, one turn at a time. Between two turns a run waits: for a step, or for the
bus to take an event. A turn announces at most one event or calls one step, so the turns of
several runs can be interleaved at exactly the points where a run gives way. -/

namespace Flowtrace

/-- What runs share: the meaning of the step functions that a graph refers to, the deadline for
each step, and the bus. -/
structure Engine (φ : Type) where
  steps : φ → Step
  deadline : Option Deadline
  bus : Option Bus

/-- What a run does in its next turn. -/
inductive Phase (φ : Type) where
  | starting
  | entering (task : Task φ)
  | calling (task : Task φ)
  | reporting (task : Task φ) (outcome : Outcome)
  | failing (error : Raised φ)
  | completing
  | stalled
  | ended (ending : Ending φ)

structure Run (φ : Type) where
  graph : TaskGraph φ
  phase : Phase φ
  payload : Value
  context : Context
  current : Option String
  transitions : List Transition
  events : List Event
  notes : List Note

namespace Run

variable {φ : Type}

/-- The run has a copy of its caller's mapping: what a step assigns stays out of the caller's
context, and the values that neither replaces stay the same for both. -/
def start (graph : TaskGraph φ) (input : Value) (context : Context) : Run φ :=
  ⟨graph, .starting, input, context, none, [], [], []⟩

def ending? (run : Run φ) : Option (Ending φ) :=
  match run.phase with
  | .ended ending => some ending
  | _ => none

def note (run : Run φ) (note : Note) : Run φ := { run with notes := run.notes ++ [note] }

/-- What a failed run leaves, around the value it failed over. -/
def partialResult (run : Run φ) (output : Value) : RunResult :=
  ⟨false, run.transitions, output, run.context⟩

def fullResult (run : Run φ) : RunResult := ⟨true, run.transitions, run.payload, run.context⟩

def failWith (run : Run φ) (fault : Fault) (output : Value) (chained : Bool) : Run φ :=
  { run with
    phase := .failing ⟨fault, chained, some (run.partialResult output), some run.graph⟩ }

def enter (run : Run φ) (task : Task φ) (transition : Transition) : Run φ :=
  { run with
    transitions := run.transitions ++ [transition]
    current := some task.name
    payload := transition.payload
    phase := .entering task }

def leave (run : Run φ) (task : Task φ) (edge : String) (output : Value) : Run φ :=
  { run with
    transitions := run.transitions ++ [.exit task.name edge output]
    payload := output
    phase := .completing }

/-- The target of a move is resolved before the move is recorded. -/
def take (run : Run φ) (task : Task φ) : Move → Run φ
  | .follow edge target produced carried =>
    match run.graph.get? target with
    | some next => run.enter next (.move task.name edge next.name carried)
    | none => run.failWith (.taskNotFound target) produced false
  | .leave edge output => run.leave task edge output
  | .refuse fault output chained => run.failWith fault output chained

def route (run : Run φ) (task : Task φ) (outcome : Outcome) : Run φ :=
  { run with notes := run.notes ++ task.catchNotes outcome }.take task
    (task.nextMove run.payload outcome)

/-- A fault that the bus raised. Until the run reports how it ended, it reports such a fault like
one of its own if it is of that kind; every other fault ends the run at once. -/
def interrupt (run : Run φ) (fault : Fault) : Run φ :=
  match run.phase with
  | .failing _ | .completing => { run with phase := .ended (.raised (.bare fault)) }
  | _ =>
    if fault.kind.isExecution then { run with phase := .failing (.bare fault) }
    else { run with phase := .ended (.raised (.bare fault)) }

def announce (engine : Engine φ) (event : Event) (next : Run φ → Run φ) (run : Run φ) : Run φ :=
  match engine.bus with
  | none => next run
  | some bus =>
    if bus.listens then
      let told := { run with events := run.events ++ [event] }
      match bus.refusal event.kind with
      | none => next told
      | some fault => told.interrupt fault.awaited
    else next run

def call (engine : Engine φ) (task : Task φ) (run : Run φ) : Run φ :=
  let behaviour := (engine.steps task.step).perform engine.deadline run.payload run.context
  let called := { run with context := behaviour.context, notes := run.notes ++ behaviour.notes }
  match behaviour.settlement.conclusion with
  | .settled outcome => { called with phase := .reporting task outcome }
  | .escaped fault => { called with phase := .ended (.raised (.bare fault)) }
  | .stalled => { called with phase := .stalled }

def outcomeNote (task : Task φ) : Outcome → Note
  | .success value => .taskSucceeded task.name value
  | .failure error => .taskFailed task.name error

def outcomeEvent (task : Task φ) : Outcome → Event
  | .success _ => .stepCompleted task.name
  | .failure error => .stepFailed task.name error.plain

def advance (engine : Engine φ) (run : Run φ) : Run φ :=
  match run.phase with
  | .starting =>
    match run.graph.startTask? with
    | none => run.failWith .startTaskNotFound run.payload false
    | some task =>
      (run.note (.runStarting task.name)).announce engine (.workflowStarted task.name)
        fun told => told.enter task (.entry task.name run.payload)
  | .entering task =>
    (run.note (.taskRunning task.name)).announce engine (.stepStarted task.name)
      fun told => { told with phase := .calling task }
  | .calling task => run.call engine task
  | .reporting task outcome =>
    (run.note (outcomeNote task outcome)).announce engine (outcomeEvent task outcome)
      fun told => told.route task outcome
  | .failing error =>
    (run.note (.runFailed error.fault.message)).announce engine
      (.workflowFailed error.fault.message error.fault.className run.current)
      fun told => { told with phase := .ended (.raised error) }
  | .completing =>
    ((run.note (.runTraced (run.transitions.map (·.label)))).note
      (.runCompleted run.transitions.length)).announce engine (.workflowCompleted run.payload)
        fun told => { told with phase := .ended (.returned told.fullResult) }
  | .stalled | .ended _ => run

/-- A run after at most so many turns: an ended run stays as it is. -/
def advanceBy (engine : Engine φ) : Nat → Run φ → Run φ
  | 0, run => run
  | turns + 1, run =>
    match run.phase with
    | .ended _ => run
    | _ => advanceBy engine turns (run.advance engine)

end Run

def Engine.run {φ : Type} (engine : Engine φ) (turns : Nat) (graph : TaskGraph φ) (input : Value)
    (context : Context) : Run φ :=
  (Run.start graph input context).advanceBy engine turns

end Flowtrace
