import Flowtrace.Proofs.Turns

/-! What a turn can do. A turn brings a run into a phase and records at most one transition, and
both depend on the phase alone that the run was in. Whatever holds at the start of a run and is
kept by each of these turns holds of the run at every turn. -/

namespace Flowtrace

variable {φ : Type}

/-- The phases of a run that has not come to its end. A fault of the bus makes it fail. -/
inductive Phase.Underway : Phase φ → Prop where
  | starting : Underway .starting
  | entering (task : Task φ) : Underway (.entering task)
  | reporting (task : Task φ) (outcome : Outcome) : Underway (.reporting task outcome)

/-- The phase that the next turn of a run brings it into, and what the run records in that
turn. -/
inductive Run.Proceeds (engine : Engine φ) (run : Run φ) : Phase φ → List Transition → Prop where
  | started {task} (phase : run.phase = .starting) (start : run.graph.startTask? = some task)
      (told : engine.refusal? .workflowStarted = none) :
      Proceeds engine run (.entering task) [.entry task.name run.payload]
  | admitted {task} (phase : run.phase = .entering task)
      (told : engine.refusal? .stepStarted = none) : Proceeds engine run (.calling task) []
  | settled {task outcome} (phase : run.phase = .calling task) :
      Proceeds engine run (.reporting task outcome) []
  | stalled {task} (phase : run.phase = .calling task)
      (stalled : (⟨task, run.payload, run.context⟩ : Visit φ).conclusion engine = .stalled) :
      Proceeds engine run .stalled []
  | moved {task outcome edge next carried} (phase : run.phase = .reporting task outcome)
      (member : edge ∈ task.edges) (onward : edge.target = some next.name)
      (found : run.graph.get? next.name = some next) :
      Proceeds engine run (.entering next) [.move task.name edge.label next.name carried]
  | left {task outcome edge output} (phase : run.phase = .reporting task outcome)
      (member : edge ∈ task.edges) (last : edge.target = none) :
      Proceeds engine run .completing [.exit task.name edge.label output]
  | failed {error} (underway : run.phase.Underway) : Proceeds engine run (.failing error) []
  | ended (ending : Ending φ) : Proceeds engine run (.ended ending) []
  | waiting (phase : run.phase = .stalled) : Proceeds engine run .stalled []

namespace Run

structure Unmoved (run next : Run φ) : Prop where
  graph : next.graph = run.graph
  transitions : next.transitions = run.transitions
  current : next.current = run.current

/-- A turn of a run, with what it records. The current task is the last one that was entered. -/
structure Turned (engine : Engine φ) (run next : Run φ) : Prop where
  same : next.graph = run.graph
  proceeds : ∃ recorded, run.Proceeds engine next.phase recorded ∧
    next.transitions = run.transitions ++ recorded ∧
    next.current = (recorded.filterMap (·.destination)).getLast?.or run.current

variable {engine : Engine φ} {run next : Run φ}

theorem Turned.aside (kept : run.Unmoved next) (proceeds : run.Proceeds engine next.phase []) :
    Turned engine run next :=
  ⟨kept.graph, [], proceeds, by rw [kept.transitions, List.append_nil], kept.current⟩

theorem Turned.interrupt (kept : run.Unmoved next) (phase : next.phase = run.phase)
    (announces : run.phase.Underway ∨ (∃ error, run.phase = .failing error) ∨
      run.phase = .completing) (fault : Fault) :
    Turned engine run (next.interrupt fault) := by
  have ends : ∀ ending, Turned engine run { next with phase := .ended ending } :=
    fun ending => .aside { kept with } (.ended ending)
  unfold Run.interrupt
  rw [phase]
  split
  · exact ends _
  · exact ends _
  · rename_i going finishing
    split
    · have underway : run.phase.Underway := by
        rcases announces with underway | ⟨error, failing⟩ | completing
        · exact underway
        · exact absurd failing (going error)
        · exact absurd completing finishing
      exact .aside { kept with } (.failed underway)
    · exact ends _

/-- Whatever the bus makes of an event, it is a turn if it is one once the event is taken. -/
theorem Turned.announce {before : Run φ} {event : Event} {taken : Run φ → Run φ}
    (kept : run.Unmoved before) (phase : before.phase = run.phase)
    (announces : run.phase.Underway ∨ (∃ error, run.phase = .failing error) ∨
      run.phase = .completing)
    (goes : engine.refusal? event.kind = none →
      ∀ events, Turned engine run (taken { before with events })) :
    Turned engine run (before.announce engine event taken) := by
  rw [announce_eq]
  split
  · rename_i told
    exact goes told _
  · have told : run.Unmoved { before with events := before.events ++ engine.told event } :=
      { kept with }
    exact Turned.interrupt told phase announces _

theorem Turned.route {before : Run φ} {task : Task φ} {outcome : Outcome}
    (kept : run.Unmoved before) (phase : run.phase = .reporting task outcome) :
    Turned engine run (before.route task outcome) := by
  have underway : run.phase.Underway := phase ▸ .reporting task outcome
  obtain ⟨graph, transitions, current⟩ := kept
  unfold Run.route
  rcases task.nextMove_cases before.payload outcome with
    ⟨edge, selects, moved⟩ | ⟨fault, output, chained, refuses, moved⟩
  · rw [moved]
    cases onward : edge.target with
    | none =>
      exact ⟨graph, _, .left phase selects.edge.1 onward, congrArg (· ++ [_]) transitions, current⟩
    | some target =>
      simp only [Move.along, take]
      split
      · rename_i next found
        rw [graph] at found
        obtain rfl := (TaskGraph.mem_of_get? found).2
        exact ⟨graph, _, .moved phase selects.edge.1 onward found,
          congrArg (· ++ [_]) transitions, rfl⟩
      · exact .aside ⟨graph, transitions, current⟩ (.failed underway)
  · rw [moved]
    exact .aside ⟨graph, transitions, current⟩ (.failed underway)

theorem turned_advance (engine : Engine φ) (run : Run φ) :
    Turned engine run (run.advance engine) := by
  unfold advance
  cases phase : run.phase with
  | starting =>
    have underway : run.phase.Underway := phase ▸ .starting
    cases start : run.graph.startTask? with
    | none => exact .aside ⟨rfl, rfl, rfl⟩ (.failed underway)
    | some task =>
      exact .announce ⟨rfl, rfl, rfl⟩ rfl (.inl underway) fun told events =>
        ⟨rfl, _, .started phase start told, rfl, rfl⟩
  | entering task =>
    exact .announce ⟨rfl, rfl, rfl⟩ rfl (.inl (phase ▸ .entering task)) fun told events =>
      .aside ⟨rfl, rfl, rfl⟩ (.admitted phase told)
  | calling task =>
    simp only [call]
    split
    · exact .aside ⟨rfl, rfl, rfl⟩ (.settled phase)
    · exact .aside ⟨rfl, rfl, rfl⟩ (.ended _)
    · rename_i stalled
      exact .aside ⟨rfl, rfl, rfl⟩ (.stalled phase stalled)
  | reporting task outcome =>
    exact .announce ⟨rfl, rfl, rfl⟩ rfl (.inl (phase ▸ .reporting task outcome)) fun _ events =>
      .route ⟨rfl, rfl, rfl⟩ phase
  | failing error =>
    exact .announce ⟨rfl, rfl, rfl⟩ rfl (.inr (.inl ⟨error, phase⟩)) fun _ events =>
      .aside ⟨rfl, rfl, rfl⟩ (.ended _)
  | completing =>
    exact .announce ⟨rfl, rfl, rfl⟩ rfl (.inr (.inr phase)) fun _ events =>
      .aside ⟨rfl, rfl, rfl⟩ (.ended _)
  | stalled => exact .aside ⟨rfl, rfl, rfl⟩ (by rw [phase]; exact .waiting phase)
  | ended ending => exact .aside ⟨rfl, rfl, rfl⟩ (by rw [phase]; exact .ended ending)

end Run

/-- What the bus must have taken for a run to be in a phase. -/
def Phase.Admitted (engine : Engine φ) : Phase φ → Prop
  | .entering _ => engine.refusal? .workflowStarted = none
  | .calling _ | .reporting .. =>
    engine.refusal? .workflowStarted = none ∧ engine.refusal? .stepStarted = none
  | _ => True

theorem Run.Turned.admitted {engine : Engine φ} {run next : Run φ} (turned : Turned engine run next)
    (admitted : run.phase.Admitted engine) : next.phase.Admitted engine := by
  obtain ⟨_, recorded, proceeds, _⟩ := turned
  generalize next.phase = reached at proceeds
  cases proceeds with
  | started phase start told => exact told
  | admitted phase told =>
    rw [phase] at admitted
    exact ⟨admitted, told⟩
  | settled phase =>
    rw [phase] at admitted
    exact admitted
  | moved phase =>
    rw [phase] at admitted
    exact admitted.1
  | stalled | left | failed | ended | waiting => exact trivial

namespace Engine

variable (engine : Engine φ) (graph : TaskGraph φ) (input : Value) (context : Context) (turns : Nat)

theorem admitted : (engine.run turns graph input context).phase.Admitted engine := by
  induction turns with
  | zero => exact trivial
  | succ turns ih =>
    rw [engine.run_succ]
    exact (Run.turned_advance engine _).admitted ih

/-- The bus has taken the announcements of a run that calls a step. -/
theorem told_of_visit {engine : Engine φ} {graph : TaskGraph φ} {input : Value} {context : Context}
    {turn : Nat} {visit : Visit φ}
    (calls : (engine.run turn graph input context).visit? = some visit) :
    engine.refusal? .workflowStarted = none ∧ engine.refusal? .stepStarted = none := by
  have admitted := engine.admitted graph input context turn
  rw [Run.phase_of_visit? calls] at admitted
  exact admitted

theorem current_eq :
    (engine.run turns graph input context).current =
      ((engine.run turns graph input context).transitions.filterMap (·.destination)).getLast? := by
  induction turns with
  | zero => rfl
  | succ turns ih =>
    obtain ⟨_, recorded, _, transitions, current⟩ :=
      Run.turned_advance engine (engine.run turns graph input context)
    rw [engine.run_succ, current, transitions, ih, List.filterMap_append, List.getLast?_append]

end Engine

end Flowtrace
