import Mathlib.Data.List.Forall2
import Flowtrace.Proofs.LintSoundness

/-! The same run on another graph. A run asks its graph where to start and which task a name stands
for, and it asks a task how to call its step and where to go next. As long as another graph answers
alike, each turn made there is the same turn, so that two runs are one up to the first turn at
which their graphs differ. -/

namespace Flowtrace

variable {φ : Type}

/-- The task of the same name, or the task itself where no other has its name. -/
def TaskGraph.namesake (graph : TaskGraph φ) (task : Task φ) : Task φ :=
  (graph.get? task.name).getD task

def Raised.recast (other : TaskGraph φ) (error : Raised φ) : Raised φ :=
  { error with graph := error.graph.map fun _ => other }

def Ending.recast (other : TaskGraph φ) : Ending φ → Ending φ
  | .returned result => .returned result
  | .raised error => .raised (error.recast other)

def Phase.recast (other : TaskGraph φ) : Phase φ → Phase φ
  | .starting => .starting
  | .entering task => .entering (other.namesake task)
  | .calling task => .calling (other.namesake task)
  | .reporting task outcome => .reporting (other.namesake task) outcome
  | .failing error => .failing (error.recast other)
  | .completing => .completing
  | .stalled => .stalled
  | .ended ending => .ended (ending.recast other)

/-- The same run on another graph: only the graph and the tasks of it are others. The trace, the
payload, the context, the events, the notes and the way it ends stay as they are. -/
def Run.recast (other : TaskGraph φ) (run : Run φ) : Run φ :=
  { run with graph := other, phase := run.phase.recast other }

structure Visit.Alike (engine : Engine φ) (first second : Visit φ) : Prop where
  conclusion : first.conclusion engine = second.conclusion engine
  left : first.left engine = second.left engine
  notes : (first.behaviour engine).notes = (second.behaviour engine).notes

/-- Another graph answers as the graph of a run does, as far as the next turn asks. Where a task
leads is not asked if the bus refuses the report of its outcome. -/
structure Run.Agrees (engine : Engine φ) (other : TaskGraph φ) (run : Run φ) : Prop where
  start : run.phase = .starting → other.startTask? = run.graph.startTask?.map other.namesake
  call : ∀ visit, run.visit? = some visit →
    Visit.Alike engine { visit with task := other.namesake visit.task } visit
  route : ∀ task outcome, run.phase = .reporting task outcome →
    engine.refusal? (outcomeEvent task outcome).kind = none →
    (other.namesake task).nextMove run.payload outcome = task.nextMove run.payload outcome ∧
    (other.namesake task).catchNotes outcome = task.catchNotes outcome ∧
    ∀ edge target produced carried,
      task.nextMove run.payload outcome = .follow edge target produced carried →
      other.get? target = (run.graph.get? target).map other.namesake

namespace TaskGraph

variable {graph : TaskGraph φ} {task : Task φ}

theorem namesake_of_get? {found : Task φ} (held : graph.get? task.name = some found) :
    graph.namesake task = found := by
  simp [namesake, held]

theorem namesake_name (graph : TaskGraph φ) (task : Task φ) :
    (graph.namesake task).name = task.name := by
  cases held : graph.get? task.name with
  | none => simp [namesake, held]
  | some found => rw [namesake_of_get? held, (mem_of_get? held).2]

theorem map_namesake {found : Option (Task φ)}
    (kept : ∀ task, found = some task → graph.namesake task = task) :
    found.map graph.namesake = found := by
  cases found with
  | none => rfl
  | some task => rw [Option.map_some, kept task rfl]

end TaskGraph

/-- Two graphs with related tasks in the same places. Tasks are found by their name and their start
flag, so a relation that keeps both is one between the tasks that two runs find. -/
structure TaskGraph.Related (related : Task φ → Task φ → Prop) (other graph : TaskGraph φ) :
    Prop where
  tasks : List.Forall₂ related other.tasks graph.tasks
  name : ∀ {twin task}, related twin task → twin.name = task.name
  start : ∀ {twin task}, related twin task → twin.start = task.start

namespace TaskGraph

variable {related : Task φ → Task φ → Prop} {other graph : TaskGraph φ} {task : Task φ}

theorem find?_rel {after before : List (Task φ)} (tasks : List.Forall₂ related after before)
    {wanted : Task φ → Bool}
    (alike : ∀ {twin task : Task φ}, related twin task → wanted twin = wanted task) :
    Option.Rel related (after.find? wanted) (before.find? wanted) := by
  induction tasks with
  | nil => exact .none
  | @cons twin task _ _ first rest ih =>
    rw [List.find?_cons, List.find?_cons, alike first]
    cases wanted task with
    | true => exact .some first
    | false => exact ih

theorem head?_rel {after before : List (Task φ)} (tasks : List.Forall₂ related after before) :
    Option.Rel related after.head? before.head? := by
  cases tasks with
  | nil => exact .none
  | cons first rest => exact .some first

namespace Related

theorem get?_rel (graphs : Related related other graph) (name : String) :
    Option.Rel related (other.get? name) (graph.get? name) :=
  find?_rel graphs.tasks fun first => by rw [graphs.name first]

theorem startTask?_rel (graphs : Related related other graph) :
    Option.Rel related other.startTask? graph.startTask? := by
  have flagged := find?_rel graphs.tasks fun first => graphs.start first
  have heads := head?_rel graphs.tasks
  unfold startTask?
  generalize other.tasks.find? (·.start) = after at flagged ⊢
  generalize graph.tasks.find? (·.start) = before at flagged ⊢
  cases flagged with
  | some first => exact .some first
  | none => exact heads

theorem eq_map_namesake (graphs : Related related other graph) {after before : Option (Task φ)}
    (found : Option.Rel related after before)
    (member : ∀ twin, after = some twin → twin ∈ other.tasks) :
    after = before.map other.namesake := by
  cases found with
  | none => rfl
  | some twins =>
    have held := get?_of_mem (member _ rfl)
    rw [graphs.name twins] at held
    rw [Option.map_some, namesake_of_get? held]

theorem get?_eq (graphs : Related related other graph) (name : String) :
    other.get? name = (graph.get? name).map other.namesake :=
  graphs.eq_map_namesake (graphs.get?_rel name) fun _ found => (mem_of_get? found).1

theorem startTask?_eq (graphs : Related related other graph) :
    other.startTask? = graph.startTask?.map other.namesake :=
  graphs.eq_map_namesake graphs.startTask?_rel fun _ selected => startTask?_mem selected

theorem namesake (graphs : Related related other graph) (known : graph.get? task.name = some task) :
    related (other.namesake task) task := by
  have found := graphs.get?_rel task.name
  rw [graphs.get?_eq, known, Option.map_some] at found
  cases found with
  | some twins => exact twins

/-- Related tasks may also agree, place by place, on what is read off them. -/
theorem and_map {β : Type} {read : Task φ → β} (graphs : Related related other graph)
    (same : other.tasks.map read = graph.tasks.map read) :
    Related (fun twin task => related twin task ∧ read twin = read task) other graph where
  tasks := by
    have reads : List.Forall₂ (· = ·) (other.tasks.map read) (graph.tasks.map read) := by
      rw [List.forall₂_eq_eq_eq, same]
    rw [List.forall₂_map_left_iff, List.forall₂_map_right_iff] at reads
    exact graphs.tasks.mp (fun _ _ alike equal => ⟨alike, equal⟩) reads
  name alike := graphs.name alike.1
  start alike := graphs.start alike.1

end Related

end TaskGraph

theorem Visit.alike_of_step {engine : Engine φ} {visit : Visit φ} {task : Task φ}
    (step : engine.steps task.step = engine.steps visit.task.step) :
    Visit.Alike engine { visit with task } visit := by
  have same : ({ visit with task } : Visit φ).behaviour engine = visit.behaviour engine := by
    simp only [Visit.behaviour, step]
  exact ⟨congrArg (·.settlement.conclusion) same, congrArg (·.context) same,
    congrArg (·.notes) same⟩

namespace Run

variable {engine : Engine φ} {other : TaskGraph φ} {run : Run φ}

/-- A graph that keeps the task at which a run is has to agree only on what names lead to. -/
theorem Agrees.of_kept
    (start : run.phase = .starting → other.startTask? = run.graph.startTask?.map other.namesake)
    (kept : ∀ task, run.phase.task? = some task → other.namesake task = task)
    (resolves : ∀ task outcome, run.phase = .reporting task outcome →
      engine.refusal? (outcomeEvent task outcome).kind = none →
      ∀ edge target produced carried,
        task.nextMove run.payload outcome = .follow edge target produced carried →
        other.get? target = (run.graph.get? target).map other.namesake) :
    run.Agrees engine other where
  start := start
  call := by
    intro visit calls
    have same := kept visit.task (task?_of_visit? calls)
    exact Visit.alike_of_step (by rw [same])
  route := by
    intro task outcome phase taken
    have same := kept task (task?_of_reporting phase)
    rw [same]
    exact ⟨rfl, rfl, resolves task outcome phase taken⟩

/-- A run on a graph agrees with a related graph as long as related tasks call steps alike and route
what they report alike. -/
theorem Agrees.of_related {related : Task φ → Task φ → Prop} (confined : Confined run.graph run)
    (graphs : other.Related related run.graph)
    (steps : ∀ {twin task}, related twin task → engine.steps twin.step = engine.steps task.step)
    (routes : ∀ task outcome, run.phase = .reporting task outcome →
      engine.refusal? (outcomeEvent task outcome).kind = none →
      related (other.namesake task) task →
      (other.namesake task).nextMove run.payload outcome = task.nextMove run.payload outcome ∧
        (other.namesake task).catchNotes outcome = task.catchNotes outcome) :
    run.Agrees engine other where
  start := fun _ => graphs.startTask?_eq
  call := by
    intro visit calls
    have known := confined.known visit.task (task?_of_visit? calls)
    exact Visit.alike_of_step (steps (graphs.namesake known))
  route := by
    intro task outcome phase taken
    have known := confined.known task (task?_of_reporting phase)
    obtain ⟨move, notes⟩ := routes task outcome phase taken (graphs.namesake known)
    exact ⟨move, notes, fun _ target _ _ _ => graphs.get?_eq target⟩

theorem interrupt_recast (run : Run φ) (other : TaskGraph φ) (fault : Fault) :
    (run.recast other).interrupt fault = (run.interrupt fault).recast other := by
  unfold interrupt
  cases phase : run.phase with
  | failing error => simp [recast, Phase.recast, Ending.recast, Raised.recast, Raised.bare, phase]
  | completing => simp [recast, Phase.recast, Ending.recast, Raised.recast, Raised.bare, phase]
  | _ =>
    cases execution : fault.kind.isExecution <;>
      simp [recast, Phase.recast, Ending.recast, Raised.recast, Raised.bare, phase]

/-- The bus answers both runs alike, so they go on alike if they do once it takes the event. -/
theorem announce_recast (run : Run φ) (other : TaskGraph φ) {event : Event}
    {next next' : Run φ → Run φ}
    (taken : engine.refusal? event.kind = none →
      ∀ events, next' ({ run with events }.recast other) =
        (next { run with events }).recast other) :
    (run.recast other).announce engine event next' =
      (run.announce engine event next).recast other := by
  rw [announce_eq, announce_eq]
  cases refused : engine.refusal? event.kind with
  | none => exact taken refused (run.events ++ engine.told event)
  | some fault =>
    exact interrupt_recast { run with events := run.events ++ engine.told event } other fault

theorem failWith_recast (fault : Fault) (output : Value) (chained : Bool) :
    (run.recast other).failWith fault output chained =
      (run.failWith fault output chained).recast other := rfl

theorem enter_recast {task next : Task φ} {transition : Transition}
    (found : other.namesake task = next) :
    (run.recast other).enter next transition = (run.enter task transition).recast other := by
  subst found
  simp only [enter, recast, Phase.recast, TaskGraph.namesake_name]

theorem take_recast {task : Task φ} {move : Move}
    (resolves : ∀ edge target produced carried, move = .follow edge target produced carried →
      other.get? target = (run.graph.get? target).map other.namesake) :
    (run.recast other).take (other.namesake task) move = (run.take task move).recast other := by
  cases move with
  | follow edge target produced carried =>
    have resolved := resolves edge target produced carried rfl
    have graph : (run.recast other).graph = other := rfl
    simp only [take, graph, resolved]
    cases found : run.graph.get? target with
    | none => exact failWith_recast _ _ _
    | some next =>
      simp only [Option.map_some, TaskGraph.namesake_name]
      exact enter_recast rfl
  | leave edge output =>
    simp only [take, leave, recast, Phase.recast, TaskGraph.namesake_name]
  | refuse fault output chained => exact failWith_recast _ _ _

theorem route_recast (run : Run φ) {task : Task φ} {outcome : Outcome}
    (move : (other.namesake task).nextMove run.payload outcome = task.nextMove run.payload outcome)
    (caught : (other.namesake task).catchNotes outcome = task.catchNotes outcome)
    (resolves : ∀ edge target produced carried,
      task.nextMove run.payload outcome = .follow edge target produced carried →
      other.get? target = (run.graph.get? target).map other.namesake) :
    (run.recast other).route (other.namesake task) outcome =
      (run.route task outcome).recast other := by
  have payload : (run.recast other).payload = run.payload := rfl
  simp only [route, payload, move, caught]
  exact @take_recast _ other { run with notes := run.notes ++ task.catchNotes outcome } _ _ resolves

theorem call_recast {task : Task φ} (phase : run.phase = .calling task)
    (agrees : run.Agrees engine other) :
    (run.recast other).call engine (other.namesake task) = (run.call engine task).recast other := by
  have alike := agrees.call ⟨task, run.payload, run.context⟩ (by simp [visit?, phase])
  have conclusion := alike.conclusion
  have left := alike.left
  have notes := alike.notes
  simp only [Visit.conclusion, Visit.left, Visit.behaviour] at conclusion left notes
  simp only [call, recast, conclusion, left, notes]
  split <;> rfl

theorem outcomeEvent_namesake (task : Task φ) (outcome : Outcome) :
    outcomeEvent (other.namesake task) outcome = outcomeEvent task outcome := by
  cases outcome <;> simp only [outcomeEvent, TaskGraph.namesake_name]

theorem outcomeNote_namesake (task : Task φ) (outcome : Outcome) :
    outcomeNote (other.namesake task) outcome = outcomeNote task outcome := by
  cases outcome <;> simp only [outcomeNote, TaskGraph.namesake_name]

theorem advance_recast (agrees : run.Agrees engine other) :
    (run.recast other).advance engine = (run.advance engine).recast other := by
  have recast_phase : (run.recast other).phase = run.phase.recast other := rfl
  have recast_graph : (run.recast other).graph = other := rfl
  unfold advance
  rw [recast_phase]
  cases phase : run.phase with
  | starting =>
    simp only [Phase.recast, recast_graph, agrees.start phase]
    cases start : run.graph.startTask? with
    | none => exact failWith_recast _ _ _
    | some task =>
      simp only [Option.map_some, TaskGraph.namesake_name]
      exact announce_recast (run.note (.runStarting task.name)) other fun _ _ => enter_recast rfl
  | entering task =>
    simp only [Phase.recast, TaskGraph.namesake_name]
    exact announce_recast (run.note (.taskRunning task.name)) other fun _ _ => rfl
  | calling task => exact call_recast phase agrees
  | reporting task outcome =>
    simp only [Phase.recast, outcomeNote_namesake, outcomeEvent_namesake]
    refine announce_recast (run.note (outcomeNote task outcome)) other fun taken events => ?_
    obtain ⟨move, caught, resolves⟩ := agrees.route task outcome phase taken
    exact route_recast { run.note (outcomeNote task outcome) with events } move caught resolves
  | failing error =>
    exact announce_recast (run.note (.runFailed error.fault.message)) other fun _ _ => rfl
  | completing =>
    simp only [Phase.recast]
    refine announce_recast ((run.note (.runTraced (run.transitions.map (·.label)))).note
      (.runCompleted run.transitions.length)) other fun _ _ => ?_
    rfl
  | stalled => simp only [recast, Phase.recast]
  | ended ending => simp only [recast, Phase.recast]

end Run

namespace Engine

variable {engine : Engine φ} {graph other : TaskGraph φ} {input : Value} {context : Context}

/-- Runs on two graphs are one run, up to a turn at which they part. -/
theorem recast_or_breaks (breaks : Run φ → Prop)
    (each : ∀ turn, (engine.run turn graph input context).Agrees engine other ∨
      breaks (engine.run turn graph input context)) (turns : Nat) :
    engine.run turns other input context = (engine.run turns graph input context).recast other ∨
      ∃ turn < turns,
        engine.run turn other input context =
          (engine.run turn graph input context).recast other ∧
        breaks (engine.run turn graph input context) := by
  induction turns with
  | zero => exact .inl rfl
  | succ turns ih =>
    rcases ih with same | ⟨turn, sooner, parted⟩
    · rcases each turns with agrees | parts
      · left
        rw [engine.run_succ, engine.run_succ, same, Run.advance_recast agrees]
      · exact .inr ⟨turns, Nat.lt_succ_self turns, same, parts⟩
    · exact .inr ⟨turn, Nat.lt_succ_of_lt sooner, parted⟩

theorem recast_of_agrees
    (agrees : ∀ turn, (engine.run turn graph input context).Agrees engine other) (turns : Nat) :
    engine.run turns other input context =
      (engine.run turns graph input context).recast other := by
  rcases recast_or_breaks (fun _ => False) (fun turn => .inl (agrees turn)) turns with
    same | ⟨_, _, _, parted⟩
  · exact same
  · exact parted.elim

/-- A run that fails ends in its next turn, with its fault or with one of its bus. -/
theorem ended_of_failing {turn : Nat} {failure : Raised φ}
    (failing : (engine.run turn graph input context).phase = .failing failure) :
    ∃ ending, (engine.run (turn + 1) graph input context).ending? = some ending ∧
      (engine.run (turn + 1) graph input context).transitions =
        (engine.run turn graph input context).transitions ∧
      (ending = .raised failure ∨ ∃ fault,
        engine.refusal? .workflowFailed = some fault ∧ ending = .raised (.bare fault)) := by
  rw [engine.run_succ]
  have kind : (Event.workflowFailed failure.fault.message failure.fault.className
      (engine.run turn graph input context).current).kind = .workflowFailed := rfl
  simp only [Run.advance, failing, Run.announce_eq, kind]
  cases refused : engine.refusal? .workflowFailed with
  | none => exact ⟨_, rfl, rfl, .inl rfl⟩
  | some fault =>
    refine ⟨.raised (.bare fault), ?_, Run.interrupt_transitions _ _, .inr ⟨fault, rfl, rfl⟩⟩
    simp only [Run.interrupt, Run.note, failing]
    rfl

/-- A run that has failed by itself ends with that failure, unless its bus refuses the report. -/
theorem ending_of_failing {turn turns : Nat} {failure : Raised φ} {ending : Ending φ}
    (failing : (engine.run turn graph input context).phase = .failing failure)
    (ended : (engine.run turns graph input context).ending? = some ending)
    (own : ending.result? ≠ none ∨ engine.refusal? .workflowFailed = none) :
    ending = .raised failure := by
  obtain ⟨reached, after, _, ways⟩ := ended_of_failing failing
  have same : ending = reached := by
    rcases Nat.lt_or_ge turn turns with later | sooner
    · rw [engine.run_of_ended graph input context later after, after] at ended
      exact (Option.some.inj ended).symm
    · have still := engine.run_of_ended graph input context sooner ended
      rw [still, Run.phase_of_ended ended] at failing
      cases failing
  rcases ways with raised | ⟨fault, refused, raised⟩
  · exact same.trans raised
  · rcases own with reports | told
    · exact absurd (by rw [same, raised]; rfl) reports
    · rw [told] at refused
      cases refused

end Engine

end Flowtrace
