import Flowtrace.Proofs.PartialRuns
import Flowtrace.Proofs.Recasting

/-! Definitions added after the tasks of a graph. The tasks that were there keep their names and
runs still start where they did, so a run notices what was added only where it would have failed
for want of a task: there it goes on, with the trace that it would have left behind. -/

namespace Flowtrace

variable {φ : Type}

def TaskGraph.extended (graph : TaskGraph φ) (extra : List (Task φ)) : TaskGraph φ :=
  .ofList (graph.tasks ++ extra)

/-- No definition of a new name is flagged as start, unless a task of the graph is. -/
def TaskGraph.KeepsStart (graph : TaskGraph φ) (extra : List (Task φ)) : Prop :=
  ∀ task ∈ extra, task.name ∉ graph.names → task.start = true →
    ∃ own ∈ graph.tasks, own.start = true

/-- A run about to follow a pointer that leads nowhere on its graph, but to a task of a larger
one. -/
inductive Run.Stranded (engine : Engine φ) (larger : TaskGraph φ) (run : Run φ) (next : Task φ) :
    Prop where
  | dangling {task outcome edge produced carried} (phase : run.phase = .reporting task outcome)
      (taken : engine.refusal? (outcomeEvent task outcome).kind = none)
      (kept : larger.namesake task = task)
      (moves : task.nextMove run.payload outcome = .follow edge next.name produced carried)
      (missing : run.graph.get? next.name = none) (found : larger.get? next.name = some next) :
      Stranded engine larger run next

/-- A run that goes on into a task where another one failed, with what the failed one left. -/
structure Run.Resumes (run : Run φ) (result : RunResult) (next : Task φ) (move : Transition) :
    Prop where
  phase : run.phase = .entering next
  into : move.destination = some next.name
  payload : run.payload = move.payload
  context : run.context = result.context
  transitions : run.transitions = result.transitions ++ [move]

namespace TaskGraph

variable {graph : TaskGraph φ} {extra : List (Task φ)} {name : String}

theorem extended_tasks (graph : TaskGraph φ) (extra : List (Task φ)) :
    (graph.extended extra).tasks =
      graph.tasks ++
        (firstOfEachName extra).filter fun task => decide (task.name ∉ graph.names) := by
  have tasks := firstOfEachName_append graph.tasks extra
  rw [firstOfEachName_of_distinct graph.distinct] at tasks
  exact tasks

theorem extended_of_new (graph : TaskGraph φ) (extra : List (Task φ)) :
    graph.extended extra =
      graph.extended (extra.filter fun task => decide (task.name ∉ graph.names)) := by
  have tasks : (graph.extended extra).tasks =
      (graph.extended (extra.filter fun task => decide (task.name ∉ graph.names))).tasks := by
    rw [extended_tasks, extended_tasks,
      firstOfEachName_filter (fun name => decide (name ∉ graph.names)), List.filter_filter]
    simp only [Bool.and_self]
  exact (TaskGraph.mk.injEq _ _ _ _).mpr tasks

theorem get?_extended_of_known {task : Task φ} (known : graph.get? name = some task) :
    (graph.extended extra).get? name = some task := by
  rw [extended, get?_ofList, List.find?_append]
  exact Option.or_eq_some_iff.mpr (.inl known)

theorem extended_namesake {task : Task φ} (known : graph.get? task.name = some task) :
    (graph.extended extra).namesake task = task :=
  namesake_of_get? (get?_extended_of_known known)

theorem extended_startTask? (inhabited : graph.tasks ≠ []) (keeps : graph.KeepsStart extra) :
    (graph.extended extra).startTask? = graph.startTask? := by
  have first : (graph.extended extra).tasks.head? = graph.tasks.head? := by
    obtain ⟨task, rest, tasks⟩ := List.exists_cons_of_ne_nil inhabited
    rw [extended_tasks, tasks]
    rfl
  have flagged : (graph.extended extra).tasks.find? (·.start) = graph.tasks.find? (·.start) := by
    rw [extended_tasks, List.find?_append]
    cases own : graph.tasks.find? (·.start) with
    | some task => rfl
    | none =>
      rw [Option.none_or, List.find?_eq_none]
      intro task added starts
      obtain ⟨member, new⟩ := List.mem_filter.mp added
      obtain ⟨other, inside, flag⟩ :=
        keeps task ((firstOfEachName_sublist extra).mem member) (of_decide_eq_true new) starts
      exact List.find?_eq_none.mp own other inside flag
  rw [startTask?, startTask?, flagged, first]

end TaskGraph

theorem Run.Stranded.found {engine : Engine φ} {larger : TaskGraph φ} {run : Run φ} {next : Task φ}
    (stranded : run.Stranded engine larger next) : larger.get? next.name = some next := by
  cases stranded with
  | dangling phase taken kept moves missing found => exact found

theorem Run.Stranded.parts {engine : Engine φ} {larger : TaskGraph φ} {run : Run φ} {next : Task φ}
    (stranded : run.Stranded engine larger next) :
    ∃ failure result move, (run.advance engine).phase = .failing failure ∧
      failure.result = some result ∧ failure.fault.kind = .taskNotFound next.name ∧
      ((run.recast larger).advance engine).Resumes result next move := by
  obtain @⟨task, outcome, edge, produced, carried, phase, taken, kept, moves, missing, found⟩ :=
    stranded
  have larger_phase : (run.recast larger).phase = .reporting task outcome := by
    simp only [recast, phase, Phase.recast, kept]
  obtain ⟨notes, events, fails⟩ := advance_of_reporting phase taken
  obtain ⟨larger_notes, larger_events, goes⟩ := advance_of_reporting larger_phase taken
  refine ⟨⟨.taskNotFound next.name, false, some (run.partialResult produced), some run.graph⟩, _,
    .move task.name edge next.name carried, ?_, rfl, rfl, ?_⟩
  · rw [fails]
    simp only [route, moves, take, missing]
    rfl
  · rw [goes]
    simp only [route, recast, moves, take, found]
    exact ⟨rfl, rfl, rfl, rfl, rfl⟩

section Extension

variable {engine : Engine φ} {graph : TaskGraph φ} {extra : List (Task φ)} {input : Value}
  {context : Context}

theorem Confined.agrees_or_stranded {run : Run φ} (confined : Confined graph run)
    (engine : Engine φ) (inhabited : graph.tasks ≠ []) (keeps : graph.KeepsStart extra) :
    run.Agrees engine (graph.extended extra) ∨
      ∃ next, run.Stranded engine (graph.extended extra) next := by
  obtain ⟨rfl, known, _, _⟩ := confined
  by_cases stranded : ∃ next, run.Stranded engine (run.graph.extended extra) next
  · exact .inr stranded
  · refine .inl (.of_kept ?_ ?_ ?_)
    · intro _
      rw [TaskGraph.extended_startTask? inhabited keeps, TaskGraph.map_namesake]
      exact fun start selected =>
        TaskGraph.extended_namesake (TaskGraph.get?_of_mem (TaskGraph.startTask?_mem selected))
    · exact fun task stands => TaskGraph.extended_namesake (known task stands)
    · intro task outcome phase taken edge target produced carried moves
      have stands := Run.task?_of_reporting phase
      cases led : run.graph.get? target with
      | some next =>
        obtain rfl := (TaskGraph.mem_of_get? led).2
        rw [TaskGraph.get?_extended_of_known led, Option.map_some,
          TaskGraph.extended_namesake led]
      | none =>
        cases resolved : (run.graph.extended extra).get? target with
        | none => rfl
        | some next =>
          obtain rfl := (TaskGraph.mem_of_get? resolved).2
          have kept : (run.graph.extended extra).namesake task = task :=
            TaskGraph.extended_namesake (known task stands)
          exact absurd ⟨next, .dangling phase taken kept moves led resolved⟩ stranded

theorem Engine.attached_of_missing {turns : Nat} {failure : Raised φ} {target : String}
    (ended : (engine.run turns graph input context).ending? = some (.raised failure))
    (own : failure.result ≠ none ∨ engine.Unhindered)
    (kind : failure.fault.kind = .taskNotFound target) :
    ∃ result, failure.result = some result := by
  rcases own with reports | unhindered
  · exact Option.ne_none_iff_exists'.mp reports
  · have concludes := Engine.concludes_of_unhindered unhindered ended
    obtain ⟨result, carried⟩ := concludes.carriesRun (by rw [kind]; rfl)
    exact ⟨result, carried.attached⟩

/-- A run that has failed for want of a task that a larger graph has is a run there up to the turn
at which it was to follow the pointer. -/
theorem Engine.stranded_of_missing {larger : TaskGraph φ}
    (each : ∀ turn, (engine.run turn graph input context).Agrees engine larger ∨
      ∃ next, (engine.run turn graph input context).Stranded engine larger next)
    {turns : Nat} {failure : Raised φ} {result : RunResult} {target : String}
    (ended : (engine.run turns graph input context).ending? = some (.raised failure))
    (attached : failure.result = some result) (kind : failure.fault.kind = .taskNotFound target)
    (added : larger.contains target = true) :
    ∃ turn < turns, ∃ next,
      engine.run turn larger input context =
        (engine.run turn graph input context).recast larger ∧
      (engine.run turn graph input context).Stranded engine larger next := by
  have parts := Engine.recast_or_breaks (fun run => ∃ next, run.Stranded engine larger next) each
  rcases parts turns with same | ⟨turn, sooner, same, next, stranded⟩
  · -- The larger graph would lack the task as well.
    have recast_ended : (engine.run turns larger input context).ending? =
        some (.raised (failure.recast larger)) := by
      rw [same]
      simp only [Run.ending?, Run.recast, Run.phase_of_ended ended, Phase.recast, Ending.recast]
    have reported : (Ending.raised (failure.recast larger)).result? = some result := attached
    have concludes := Engine.concludes_of_reported recast_ended reported
    have own : (failure.recast larger).fault.kind.isOwn = true := by
      rw [Raised.recast, kind]
      rfl
    obtain ⟨_, carried⟩ := concludes.carriesRun own
    have missing := carried.failsOver.missing_of_target kind
    rw [added] at missing
    cases missing
  · exact ⟨turn, sooner, next, same, stranded⟩

/-- What is recorded and reported once a run has gone on extends what the failed run left. -/
theorem Engine.extends_of_resumes {turn : Nat} {result : RunResult} {next : Task φ}
    {move : Transition} (resumes : (engine.run turn graph input context).Resumes result next move) :
    (∀ later, turn ≤ later → result.transitions ++ [move] <+:
      (engine.run later graph input context).transitions) ∧
    ∀ later ending reported, (engine.run later graph input context).ending? = some ending →
      ending.result? = some reported → result.transitions ++ [move] <+: reported.transitions := by
  have grows : ∀ later, turn ≤ later → result.transitions ++ [move] <+:
      (engine.run later graph input context).transitions := by
    intro later after
    rw [← resumes.transitions]
    exact engine.transitions_prefix graph input context after
  refine ⟨grows, ?_⟩
  intro later ending reported ended reports
  rw [Engine.transitions_of_reported ended reports]
  rcases Nat.le_total turn later with after | before
  · exact grows later after
  · -- A run that goes on had not ended before.
    have phase := resumes.phase
    rw [engine.run_of_ended graph input context before ended, Run.phase_of_ended ended] at phase
    cases phase

end Extension

/-- Definitions added after the tasks of a graph change no run on it, but for one that fails for
want of a task that was added. On the larger graph that run goes on into the task, and everything
that it then records comes after what it had recorded. Definitions of names that were taken do not
count. -/
theorem runs_are_monotone_in_the_graph (engine : Engine φ) {graph : TaskGraph φ}
    {extra : List (Task φ)} (inhabited : graph.tasks ≠ []) (keeps : graph.KeepsStart extra)
    (input : Value) (context : Context) :
    (∀ turns ending, (engine.run turns graph input context).ending? = some ending →
      (ending.result? ≠ none ∨ engine.refusal? .workflowFailed = none) →
      (∀ failure target, ending = .raised failure → failure.fault.kind = .taskNotFound target →
        (graph.extended extra).contains target = false) →
      engine.run turns (graph.extended extra) input context =
        (engine.run turns graph input context).recast (graph.extended extra)) ∧
    (∀ turns failure target,
      (engine.run turns graph input context).ending? = some (.raised failure) →
      (failure.result ≠ none ∨ engine.Unhindered) → failure.fault.kind = .taskNotFound target →
      (graph.extended extra).contains target = true →
      ∃ result, failure.result = some result ∧ ∃ turn < turns, ∃ next move,
        engine.run turn (graph.extended extra) input context =
          (engine.run turn graph input context).recast (graph.extended extra) ∧
        (graph.extended extra).get? target = some next ∧
        (engine.run (turn + 1) (graph.extended extra) input context).Resumes result next move ∧
        (∀ later, turn < later → result.transitions ++ [move] <+:
          (engine.run later (graph.extended extra) input context).transitions) ∧
        ∀ later ending reported,
          (engine.run later (graph.extended extra) input context).ending? = some ending →
          ending.result? = some reported →
          result.transitions ++ [move] <+: reported.transitions) ∧
    graph.extended extra =
      graph.extended (extra.filter fun task => decide (task.name ∉ graph.names)) := by
  have each : ∀ turn, (engine.run turn graph input context).Agrees engine (graph.extended extra) ∨
      ∃ next, (engine.run turn graph input context).Stranded engine (graph.extended extra) next :=
    fun turn => (engine.confined graph input context turn).agrees_or_stranded engine inhabited keeps
  refine ⟨?_, ?_, graph.extended_of_new extra⟩
  · intro turns ending ended own lacks
    rcases Engine.recast_or_breaks (fun run => ∃ next, run.Stranded engine _ next) each turns with
      same | ⟨turn, _, _, next, stranded⟩
    · exact same
    · -- The run would have failed for want of a task that was added.
      obtain ⟨failure, _, _, failing, attached, kind, _⟩ := stranded.parts
      rw [← engine.run_succ] at failing
      have raised := Engine.ending_of_failing failing ended own
      have missing := lacks failure next.name raised kind
      simp [TaskGraph.contains, stranded.found] at missing
  · intro turns failure target ended own kind added
    obtain ⟨result, attached⟩ := Engine.attached_of_missing ended own kind
    obtain ⟨turn, sooner, next, same, stranded⟩ :=
      Engine.stranded_of_missing each ended attached kind added
    obtain ⟨fails, left, move, failing, leaves, names, resumes⟩ := stranded.parts
    rw [← engine.run_succ] at failing
    rw [← same, ← engine.run_succ] at resumes
    obtain rfl : failure = fails := by
      have reports : (Ending.raised failure).result? ≠ none := by simp [Ending.result?, attached]
      exact Ending.raised.inj (Engine.ending_of_failing failing ended (.inl reports))
    obtain rfl : result = left := Option.some.inj (attached.symm.trans leaves)
    obtain rfl : target = next.name := FaultKind.taskNotFound.inj (kind.symm.trans names)
    obtain ⟨grows, reports⟩ := Engine.extends_of_resumes resumes
    exact ⟨result, attached, turn, sooner, next, move, same, stranded.found, resumes, grows,
      reports⟩

def Retry.search : Task Step where
  name := "search"
  step := ⟨.direct, fun _ context => ⟨.returned (.text "found"), context, []⟩⟩
  routing := .activity (some "check") none
  start := false

def Retry.further : List (Task Step) := [{ recover with start := true }, search]

theorem Retry.keeps_start : Retry.graph.KeepsStart Retry.further := by
  intro _ _ _ _
  exact ⟨Retry.fetch, .tail _ (.head _), rfl⟩

theorem retry_is_monotone :
    Retry.graph.tasks ≠ [] ∧ Retry.graph.KeepsStart Retry.further ∧
      (Retry.engine.run 14 Retry.graph .null (Retry.reply "lost")).ending? =
        some (.raised Retry.lost) ∧
      (Retry.graph.extended Retry.further).contains "search" = true ∧
      ∃ result, Retry.lost.result = some result ∧ ∃ turn < 14, ∃ next move,
        (Retry.graph.extended Retry.further).get? "search" = some next ∧
        (Retry.engine.run (turn + 1) (Retry.graph.extended Retry.further) .null
          (Retry.reply "lost")).Resumes result next move := by
  have inhabited : Retry.graph.tasks ≠ [] := List.cons_ne_nil _ _
  refine ⟨inhabited, Retry.keeps_start, rfl, rfl, ?_⟩
  obtain ⟨result, attached, turn, sooner, next, move, _, found, resumes, _⟩ :=
    (runs_are_monotone_in_the_graph Retry.engine inhabited Retry.keeps_start .null
      (Retry.reply "lost")).2.1 14 Retry.lost "search" rfl (.inr Retry.unhindered) rfl rfl
  exact ⟨result, attached, turn, sooner, next, move, found, resumes⟩

end Flowtrace
