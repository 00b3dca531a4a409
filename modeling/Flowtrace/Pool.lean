import Flowtrace.Memory

/-! Runs side by side on one engine. They take turns in any order; the bus sees all their events,
each with the run that announced it. A run begins by copying its caller's mapping to a place of its
own. A step that is awaited may give way in its middle, so what it has done by then stands in the
memory while other runs take their turns. -/

namespace Flowtrace

/-- One call: the object that is its input, and the place of the context that its caller passes,
if it passes one. -/
structure Call where
  input : Nat
  caller : Option Nat

/-- A call that has not begun, a run with the place of its context, or a run whose step is awaited
and has effects still to come. -/
inductive Seat (φ : Type) where
  | called (call : Call)
  | running (call : Call) (place : Nat) (run : Run φ)
  | awaiting (call : Call) (place : Nat) (run : Run φ) (pending : List Effect)

/-- A call or a run goes on, or an awaited step does one thing and gives way again. -/
inductive Turn where
  | advance (index : Nat)
  | work (index : Nat)

structure Pool (φ : Type) where
  graph : TaskGraph φ
  memory : Memory
  seats : List (Seat φ)
  journal : List (Nat × Event)

variable {φ : Type}

namespace Call

def payload (call : Call) (memory : Memory) : Value := memory.objects[call.input]?.getD .null

def mapping (call : Call) (memory : Memory) : Mapping :=
  (call.caller.bind fun place => memory.mappings[place]?).getD []

def context (call : Call) (memory : Memory) : Context := (call.mapping memory).read memory.objects

end Call

/-- The run at a seat as it stands. Between its turns the context of a run is what its place shows;
an awaited step has been called with the context that its place showed then. -/
def Seat.run (graph : TaskGraph φ) (memory : Memory) : Seat φ → Run φ
  | .called call => .start graph (call.payload memory) (call.context memory)
  | .running _ place run => { run with context := memory.context place }
  | .awaiting _ _ run _ => run

/-- The next turn of a run calls a step that may give way. -/
def Run.awaits (engine : Engine φ) (run : Run φ) : Bool :=
  match run.phase with
  | .calling task => (engine.steps task.step).mode = .awaited
  | _ => false

namespace Pool

def start (graph : TaskGraph φ) (callers : Callers) (calls : List Call) : Pool φ :=
  ⟨graph, callers.memory, calls.map .called, []⟩

/-- The mapping is copied and the objects are not. -/
def begin (pool : Pool φ) (index : Nat) (call : Call) : Pool φ :=
  { pool with
    memory := { pool.memory with mappings := pool.memory.mappings ++ [call.mapping pool.memory] }
    seats := pool.seats.set index (.running call pool.memory.mappings.length
      (.start pool.graph (call.payload pool.memory) (call.context pool.memory))) }

/-- One turn of a run, with the effects that the step called in it has still to do. What it
announces goes to the journal. -/
def advance (engine : Engine φ) (pool : Pool φ) (index : Nat) (call : Call) (place : Nat)
    (run : Run φ) (effects : List Effect) : Pool φ :=
  let next := run.advance engine
  { pool with
    memory := pool.memory.performAll call.input place effects
    seats := pool.seats.set index (.running call place next)
    journal := pool.journal ++ (next.events.drop run.events.length).map (index, ·) }

def await (pool : Pool φ) (index : Nat) (call : Call) (place : Nat) (run : Run φ)
    (effects : List Effect) : Pool φ :=
  { pool with seats := pool.seats.set index (.awaiting call place run effects) }

def work (pool : Pool φ) (index : Nat) (call : Call) (place : Nat) (run : Run φ)
    (effect : Effect) (pending : List Effect) : Pool φ :=
  { pool with
    memory := pool.memory.perform call.input place effect
    seats := pool.seats.set index (.awaiting call place run pending) }

variable {engine : Engine φ} (workings : Workings engine)

def turn (pool : Pool φ) : Turn → Pool φ
  | .advance index =>
    match pool.seats[index]? with
    | some (.called call) => pool.begin index call
    | some (.running call place run) =>
      let run := { run with context := pool.memory.context place }
      if run.awaits engine then pool.await index call place run (workings.next run)
      else pool.advance engine index call place run (workings.next run)
    | some (.awaiting call place run pending) => pool.advance engine index call place run pending
    | none => pool
  | .work index =>
    match pool.seats[index]? with
    | some (.awaiting call place run (effect :: pending)) =>
      pool.work index call place run effect pending
    | _ => pool

def play (pool : Pool φ) (schedule : List Turn) : Pool φ := schedule.foldl (turn workings) pool

def runs (pool : Pool φ) : List (Run φ) := pool.seats.map (·.run pool.graph pool.memory)

def hasEnded (pool : Pool φ) : Bool := pool.runs.all fun run => run.ending?.isSome

def playRounds : Nat → Pool φ → Pool φ
  | 0, pool => pool
  | rounds + 1, pool =>
    if pool.hasEnded then pool
    else playRounds rounds (pool.play workings ((List.range pool.seats.length).map .advance))

def eventsOf (pool : Pool φ) (index : Nat) : List Event :=
  pool.journal.filterMap fun entry => if entry.1 = index then some entry.2 else none

end Pool

end Flowtrace
