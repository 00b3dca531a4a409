import Flowtrace.Proofs.Recasting

/-! Two runs that cannot be told apart from some moment on. The tasks of two graphs are twins if
they have their name and routing in common and their steps, called alike, leave the same context and
come to the same conclusion. From phases that agree up to twins, and under one bus, two runs take
the same turns: whatever each had recorded before, they record the same from then on. -/

namespace Flowtrace

variable {φ : Type}

/-- One of two runs that are compared: the engine and the graph that it runs on, and what it had
recorded when the comparison begins. -/
structure Side (φ : Type) where
  engine : Engine φ
  graph : TaskGraph φ
  transitions : List Transition
  events : List Event

def Side.anew (engine : Engine φ) (graph : TaskGraph φ) : Side φ := ⟨engine, graph, [], []⟩

def GrownAlike {α : Type} (first second items others : List α) : Prop :=
  ∃ added, items = first ++ added ∧ others = second ++ added

section Twins

variable (left right : Side φ)

structure Task.Twins (task twin : Task φ) : Prop where
  name : twin.name = task.name
  routing : twin.routing = task.routing
  conclusion : ∀ payload context, (⟨twin, payload, context⟩ : Visit φ).conclusion right.engine =
    (⟨task, payload, context⟩ : Visit φ).conclusion left.engine
  left : ∀ payload context, (⟨twin, payload, context⟩ : Visit φ).left right.engine =
    (⟨task, payload, context⟩ : Visit φ).left left.engine

def RunResult.across (result : RunResult) : RunResult :=
  { result with
    transitions := right.transitions ++ result.transitions.drop left.transitions.length }

def Raised.across (error : Raised φ) : Raised φ :=
  { error with
    result := error.result.map (·.across left right)
    graph := error.graph.map fun _ => right.graph }

def Ending.across : Ending φ → Ending φ
  | .returned result => .returned (result.across left right)
  | .raised error => .raised (error.across left right)

inductive Phase.Twins : Phase φ → Phase φ → Prop where
  | starting (start : Option.Rel (Task.Twins left right) left.graph.startTask?
      right.graph.startTask?) : Twins .starting .starting
  | entering {task twin} (twins : Task.Twins left right task twin) :
      Twins (.entering task) (.entering twin)
  | calling {task twin} (twins : Task.Twins left right task twin) :
      Twins (.calling task) (.calling twin)
  | reporting {task twin} (twins : Task.Twins left right task twin) (outcome : Outcome) :
      Twins (.reporting task outcome) (.reporting twin outcome)
  | failing (error : Raised φ) : Twins (.failing error) (.failing (error.across left right))
  | completing : Twins .completing .completing
  | stalled : Twins .stalled .stalled
  | ended (ending : Ending φ) : Twins (.ended ending) (.ended (ending.across left right))

/-- Runs that agree on everything but what they had recorded before, and their notes. -/
structure Run.Twins (run twin : Run φ) : Prop where
  own : run.graph = left.graph
  graph : twin.graph = right.graph
  phase : Phase.Twins left right run.phase twin.phase
  payload : twin.payload = run.payload
  context : twin.context = run.context
  current : twin.current = run.current
  transitions :
    GrownAlike left.transitions right.transitions run.transitions twin.transitions
  events : GrownAlike left.events right.events run.events twin.events

structure Side.Mirrors : Prop where
  bus : right.engine.bus = left.engine.bus
  tasks : ∀ name, Option.Rel (Task.Twins left right) (left.graph.get? name) (right.graph.get? name)

end Twins

theorem GrownAlike.append {α : Type} {first second items others : List α}
    (alike : GrownAlike first second items others) (newest : List α) :
    GrownAlike first second (items ++ newest) (others ++ newest) := by
  obtain ⟨added, rfl, rfl⟩ := alike
  exact ⟨added ++ newest, List.append_assoc _ _ _, List.append_assoc _ _ _⟩

theorem GrownAlike.eq_drop {α : Type} {first second items others : List α}
    (alike : GrownAlike first second items others) :
    others = second ++ items.drop first.length := by
  obtain ⟨added, rfl, rfl⟩ := alike
  rw [List.drop_left]

section Mirrors

variable {left right : Side φ}

/-- Where a task leads depends on nothing but its name and its routing. -/
theorem Task.Twins.nextMove_eq {task twin : Task φ} (twins : Task.Twins left right task twin)
    (payload : Value) (outcome : Outcome) :
    twin.nextMove payload outcome = task.nextMove payload outcome := by
  have reason : twin.unhandledReason = task.unhandledReason := by
    simp only [Task.unhandledReason, twins.routing]
  cases outcome with
  | success value => simp only [Task.nextMove, Task.afterSuccess, twins.name, twins.routing]
  | failure error =>
    simp only [Task.nextMove, Task.afterFailure, Task.catchFor?, twins.name, twins.routing, reason]

theorem Task.Twins.outcomeEvent_eq {task twin : Task φ} (twins : Task.Twins left right task twin)
    (outcome : Outcome) : Run.outcomeEvent twin outcome = Run.outcomeEvent task outcome := by
  cases outcome <;> simp only [Run.outcomeEvent, twins.name]

namespace Side.Mirrors

theorem refusal?_eq (mirrors : left.Mirrors right) (kind : EventKind) :
    right.engine.refusal? kind = left.engine.refusal? kind := by
  simp only [Engine.refusal?, mirrors.bus]

theorem told_eq (mirrors : left.Mirrors right) (event : Event) :
    right.engine.told event = left.engine.told event := by
  simp only [Engine.told, mirrors.bus]

end Side.Mirrors

namespace Run.Twins

variable {run twin : Run φ}

theorem note (twins : Run.Twins left right run twin) (note note' : Note) :
    Run.Twins left right (run.note note) (twin.note note') :=
  { twins with }

theorem result_eq (twins : Run.Twins left right run twin) (success : Bool)
    {output output' : Value} (same : output' = output) :
    (⟨success, twin.transitions, output', twin.context⟩ : RunResult) =
      RunResult.across left right ⟨success, run.transitions, output, run.context⟩ := by
  rw [same, twins.context, twins.transitions.eq_drop]
  rfl

theorem fullResult_eq (twins : Run.Twins left right run twin) :
    twin.fullResult = run.fullResult.across left right :=
  twins.result_eq true twins.payload

theorem interrupt (twins : Run.Twins left right run twin) (fault : Fault) :
    Run.Twins left right (run.interrupt fault) (twin.interrupt fault) := by
  have cut : Run.Twins left right { run with phase := .ended (.raised (.bare fault)) }
      { twin with phase := .ended (.raised (.bare fault)) } :=
    { twins with phase := .ended _ }
  have fails : Run.Twins left right { run with phase := .failing (.bare fault) }
      { twin with phase := .failing (.bare fault) } :=
    { twins with phase := .failing _ }
  have phases := twins.phase
  unfold Run.interrupt
  generalize run.phase = phase at phases ⊢
  generalize twin.phase = phase' at phases ⊢
  cases phases with
  | failing | completing => exact cut
  | starting | entering | calling | reporting | stalled | ended =>
    cases fault.kind.isExecution with
    | true => exact fails
    | false => exact cut

/-- The bus answers both runs alike, so they go on alike if they do once it takes the event. -/
theorem announce (twins : Run.Twins left right run twin) (mirrors : left.Mirrors right)
    {event event' : Event} (same : event' = event) {next next' : Run φ → Run φ}
    (goes : ∀ {told told' : Run φ}, Run.Twins left right told told' →
      Run.Twins left right (next told) (next' told')) :
    Run.Twins left right (run.announce left.engine event next)
      (twin.announce right.engine event' next') := by
  subst same
  have told : Run.Twins left right { run with events := run.events ++ left.engine.told event' }
      { twin with events := twin.events ++ left.engine.told event' } :=
    { twins with events := twins.events.append _ }
  rw [announce_eq, announce_eq, mirrors.refusal?_eq, mirrors.told_eq]
  cases left.engine.refusal? event'.kind with
  | none => exact goes told
  | some fault => exact told.interrupt fault

theorem failWith (twins : Run.Twins left right run twin) (fault : Fault) {output output' : Value}
    (same : output' = output) (chained : Bool) :
    Run.Twins left right (run.failWith fault output chained)
      (twin.failWith fault output' chained) := by
  have error : (⟨fault, chained, some (twin.partialResult output'), some twin.graph⟩ : Raised φ) =
      Raised.across left right
        ⟨fault, chained, some (run.partialResult output), some run.graph⟩ := by
    rw [Run.partialResult, twins.result_eq false same, twins.graph]
    rfl
  unfold Run.failWith
  rw [error]
  exact { twins with phase := .failing _ }

theorem enter (twins : Run.Twins left right run twin) {task task' : Task φ}
    (entered : Task.Twins left right task task') {transition transition' : Transition}
    (same : transition' = transition) :
    Run.Twins left right (run.enter task transition) (twin.enter task' transition') := by
  subst same
  exact { twins with
    phase := .entering entered
    payload := rfl
    current := congrArg some entered.name
    transitions := twins.transitions.append _ }

theorem leave (twins : Run.Twins left right run twin) {task task' : Task φ}
    (done : Task.Twins left right task task') (edge : String) (output : Value) :
    Run.Twins left right (run.leave task edge output) (twin.leave task' edge output) := by
  unfold Run.leave
  rw [done.name]
  exact { twins with
    phase := .completing
    payload := rfl
    transitions := twins.transitions.append _ }

theorem take (twins : Run.Twins left right run twin) (mirrors : left.Mirrors right)
    {task task' : Task φ} (taken : Task.Twins left right task task') (move : Move) :
    Run.Twins left right (run.take task move) (twin.take task' move) := by
  cases move with
  | follow edge target produced carried =>
    have found := mirrors.tasks target
    simp only [Run.take, twins.own, twins.graph]
    generalize left.graph.get? target = onto at found ⊢
    generalize right.graph.get? target = onto' at found ⊢
    cases found with
    | none => exact twins.failWith _ rfl false
    | some entered => exact twins.enter entered (by rw [taken.name, entered.name])
  | leave edge output => exact twins.leave taken edge output
  | refuse fault output chained => exact twins.failWith fault rfl chained

theorem route (twins : Run.Twins left right run twin) (mirrors : left.Mirrors right)
    {task task' : Task φ} (settled : Task.Twins left right task task') (outcome : Outcome) :
    Run.Twins left right (run.route task outcome) (twin.route task' outcome) := by
  have moved : task'.nextMove twin.payload outcome = task.nextMove run.payload outcome := by
    rw [twins.payload, settled.nextMove_eq]
  have noted : Run.Twins left right { run with notes := run.notes ++ task.catchNotes outcome }
      { twin with notes := twin.notes ++ task'.catchNotes outcome } := { twins with }
  rw [Run.route, Run.route, moved]
  exact noted.take mirrors settled _

theorem call (twins : Run.Twins left right run twin) {task task' : Task φ}
    (called : Task.Twins left right task task') :
    Run.Twins left right (run.call left.engine task) (twin.call right.engine task') := by
  have conclusion := called.conclusion run.payload run.context
  have left := called.left run.payload run.context
  simp only [Visit.conclusion, Visit.left, Visit.behaviour] at conclusion left
  simp only [Run.call, twins.payload, twins.context, conclusion]
  split
  · exact { twins with phase := .reporting called _, payload := rfl, context := left }
  · exact { twins with phase := .ended (.raised (.bare _)), payload := rfl, context := left }
  · exact { twins with phase := .stalled, payload := rfl, context := left }

theorem advance (twins : Run.Twins left right run twin) (mirrors : left.Mirrors right) :
    Run.Twins left right (run.advance left.engine) (twin.advance right.engine) := by
  have phases := twins.phase
  unfold Run.advance
  generalize run.phase = phase at phases ⊢
  generalize twin.phase = phase' at phases ⊢
  cases phases with
  | starting start =>
    simp only [twins.own, twins.graph]
    generalize left.graph.startTask? = first at start ⊢
    generalize right.graph.startTask? = first' at start ⊢
    cases start with
    | none => exact twins.failWith _ twins.payload false
    | some entered =>
      exact (twins.note _ _).announce mirrors (by rw [entered.name]) fun told =>
        told.enter entered (by rw [entered.name, twins.payload])
  | entering entered =>
    exact (twins.note _ _).announce mirrors (by rw [entered.name]) fun told =>
      { told with phase := .calling entered }
  | calling called => exact twins.call called
  | reporting settled outcome =>
    exact (twins.note _ _).announce mirrors (settled.outcomeEvent_eq outcome) fun told =>
      told.route mirrors settled outcome
  | failing error =>
    exact (twins.note _ _).announce mirrors (by rw [twins.current]; rfl) fun told =>
      { told with phase := .ended (.raised error) }
  | completing =>
    refine ((twins.note _ _).note _ _).announce mirrors (by rw [twins.payload]) fun told => ?_
    rw [told.fullResult_eq]
    exact { told with phase := .ended (.returned _) }
  | stalled => exact twins
  | ended => exact twins

theorem advanceBy (twins : Run.Twins left right run twin) (mirrors : left.Mirrors right)
    (turns : Nat) :
    Run.Twins left right (run.advanceBy left.engine turns)
      (twin.advanceBy right.engine turns) := by
  induction turns with
  | zero => exact twins
  | succ turns ih =>
    rw [← advance_advanceBy, ← advance_advanceBy]
    exact ih.advance mirrors

theorem ending_across (twins : Run.Twins left right run twin) :
    twin.ending? = run.ending?.map (·.across left right) := by
  have phases := twins.phase
  unfold Run.ending?
  generalize run.phase = phase at phases ⊢
  generalize twin.phase = phase' at phases ⊢
  cases phases <;> rfl

end Run.Twins

end Mirrors

/-- A run stands where another does: it has the trace, the payload, the context and the events of
the other, and its ending if it has come to one, but with the graph that it runs on itself. -/
structure Run.Repeats (image : TaskGraph φ) (run repeated : Run φ) : Prop where
  transitions : repeated.transitions = run.transitions
  payload : repeated.payload = run.payload
  context : repeated.context = run.context
  events : repeated.events = run.events
  ending : repeated.ending? = run.ending?.map (Ending.recast image)

section Anew

variable {engine second : Engine φ} {graph image : TaskGraph φ}

/-- A side that had recorded nothing has the ending itself, but for the graph. -/
theorem Ending.across_anew (ending : Ending φ) :
    ending.across (.anew engine graph) (.anew second image) = ending.recast image := by
  cases ending with
  | returned result => rfl
  | raised error =>
    have results : error.result.map (·.across (.anew engine graph) (.anew second image)) =
        error.result := by
      cases error.result <;> rfl
    simp only [Ending.across, Raised.across, Ending.recast, Raised.recast, results]
    rfl

theorem Run.Twins.repeats {run twin : Run φ}
    (twins : Run.Twins (.anew engine graph) (.anew second image) run twin) :
    run.Repeats image twin where
  transitions := twins.transitions.eq_drop
  payload := twins.payload
  context := twins.context
  events := twins.events.eq_drop
  ending := by
    rw [twins.ending_across]
    exact congrArg (run.ending?.map ·) (funext Ending.across_anew)

/-- Runs from the start, on graphs whose start tasks are twins, repeat each other. -/
theorem Engine.repeats_of_mirrors
    (mirrors : (Side.anew engine graph).Mirrors (Side.anew second image))
    (start : Option.Rel (Task.Twins (.anew engine graph) (.anew second image)) graph.startTask?
      image.startTask?)
    (turns : Nat) (input : Value) (context : Context) :
    (engine.run turns graph input context).Repeats image
      (second.run turns image input context) := by
  have begun : Run.Twins (.anew engine graph) (.anew second image) (.start graph input context)
      (.start image input context) :=
    ⟨rfl, rfl, .starting start, rfl, rfl, rfl, ⟨[], rfl, rfl⟩, ⟨[], rfl, rfl⟩⟩
  exact (begun.advanceBy mirrors turns).repeats

end Anew

namespace TaskGraph

variable {graph : TaskGraph φ}

def redefine (graph : TaskGraph φ) (change : Task φ → Task φ)
    (named : ∀ task, (change task).name = task.name) : TaskGraph φ where
  tasks := graph.tasks.map change
  distinct := by simpa [List.map_map, Function.comp_def, named] using graph.distinct

def withSteps (graph : TaskGraph φ) (step : Task φ → φ) : TaskGraph φ :=
  graph.redefine (fun task => { task with step := step task }) fun _ => rfl

theorem get?_redefine {change : Task φ → Task φ} {named : ∀ task, (change task).name = task.name}
    (name : String) : (graph.redefine change named).get? name = (graph.get? name).map change := by
  simp only [get?, redefine, List.find?_map, Function.comp_def, named]

theorem get?_withSteps (step : Task φ → φ) (name : String) :
    (graph.withSteps step).get? name =
      (graph.get? name).map fun task => { task with step := step task } :=
  get?_redefine name

theorem startTask?_withSteps (step : Task φ → φ) :
    (graph.withSteps step).startTask? =
      graph.startTask?.map fun task => { task with step := step task } := by
  simp only [startTask?, withSteps, redefine, List.find?_map, Function.comp_def, List.head?_map,
    Option.map_or]

end TaskGraph

/-- All that a run makes of its steps is how they settle and what context they leave. -/
theorem Engine.repeats_of_steps {engine second : Engine φ} {graph : TaskGraph φ}
    (bus : second.bus = engine.bus) (step : Task φ → φ)
    (alike : ∀ task ∈ graph.tasks, ∀ payload context,
      (⟨{ task with step := step task }, payload, context⟩ : Visit φ).conclusion second =
        (⟨task, payload, context⟩ : Visit φ).conclusion engine ∧
      (⟨{ task with step := step task }, payload, context⟩ : Visit φ).left second =
        (⟨task, payload, context⟩ : Visit φ).left engine)
    (turns : Nat) (input : Value) (context : Context) :
    (engine.run turns graph input context).Repeats (graph.withSteps step)
      (second.run turns (graph.withSteps step) input context) := by
  have twins : ∀ found : Option (Task φ), (∀ task, found = some task → task ∈ graph.tasks) →
      Option.Rel (Task.Twins (.anew engine graph) (.anew second (graph.withSteps step))) found
        (found.map fun task => { task with step := step task }) := by
    intro found known
    cases found with
    | none => exact .none
    | some task =>
      have alike := alike task (known task rfl)
      exact .some ⟨rfl, rfl, fun payload context => (alike payload context).1,
        fun payload context => (alike payload context).2⟩
  refine repeats_of_mirrors ⟨bus, fun name => ?_⟩ ?_ turns input context
  · have found := twins (graph.get? name) fun task found => (TaskGraph.mem_of_get? found).1
    rwa [← TaskGraph.get?_withSteps] at found
  · rw [TaskGraph.startTask?_withSteps]
    exact twins graph.startTask? fun task start => TaskGraph.startTask?_mem start

end Flowtrace
