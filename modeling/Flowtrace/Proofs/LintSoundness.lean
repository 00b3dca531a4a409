import Flowtrace.Proofs.EventProtocol
import Flowtrace.Proofs.Reachability

/-! What the lint promises of runs. The lint reads a graph without running it, and a run reads the
same graph without asking the lint. A run never leaves what the lint finds reachable, and a graph
without problems leaves a run no pointer that it could fail to follow. -/

namespace Flowtrace

variable {φ : Type}

def Phase.task? : Phase φ → Option (Task φ)
  | .entering task | .calling task | .reporting task _ => some task
  | _ => none

theorem Run.task?_of_visit? {run : Run φ} {visit : Visit φ} (calls : run.visit? = some visit) :
    run.phase.task? = some visit.task := by
  rw [phase_of_visit? calls]
  rfl

theorem Run.task?_of_reporting {run : Run φ} {task : Task φ} {outcome : Outcome}
    (phase : run.phase = .reporting task outcome) : run.phase.task? = some task := by
  rw [phase]
  rfl

def Run.entered (run : Run φ) : List String := run.transitions.filterMap (·.destination)

/-- A run that is at a reachable task of its graph, if at any, and has been at no other. -/
structure Confined (graph : TaskGraph φ) (run : Run φ) : Prop where
  same : run.graph = graph
  known : ∀ task, run.phase.task? = some task → graph.get? task.name = some task
  entered : ∀ name ∈ run.entered, name ∈ graph.reachable
  here : ∀ task, run.phase.task? = some task → task.name ∈ graph.reachable

section Confined

variable {engine : Engine φ} {graph : TaskGraph φ} {run : Run φ}

theorem Confined.aside (same : run.graph = graph) (free : run.phase.task? = none)
    (entered : ∀ name ∈ run.entered, name ∈ graph.reachable) : Confined graph run where
  same := same
  known := by simp [free]
  entered := entered
  here := by simp [free]

theorem Confined.stay {task : Task φ} (same : run.graph = graph)
    (stands : run.phase.task? = some task) (known : graph.get? task.name = some task)
    (entered : ∀ name ∈ run.entered, name ∈ graph.reachable)
    (reached : task.name ∈ graph.reachable) : Confined graph run where
  same := same
  known := by
    intro other also
    obtain rfl := Option.some.inj (stands.symm.trans also)
    exact known
  entered := entered
  here := by
    intro other also
    obtain rfl := Option.some.inj (stands.symm.trans also)
    exact reached

theorem Confined.interrupt (same : run.graph = graph)
    (entered : ∀ name ∈ run.entered, name ∈ graph.reachable) (fault : Fault) :
    Confined graph (run.interrupt fault) := by
  unfold Run.interrupt
  split
  · exact .aside same rfl entered
  · exact .aside same rfl entered
  · split
    · exact .aside same rfl entered
    · exact .aside same rfl entered

theorem Confined.announce {event : Event} {next : Run φ → Run φ} (same : run.graph = graph)
    (entered : ∀ name ∈ run.entered, name ∈ graph.reachable)
    (taken : ∀ events, Confined graph (next { run with events })) :
    Confined graph (run.announce engine event next) := by
  rw [Run.announce_eq]
  split
  · exact taken _
  · refine Confined.interrupt ?_ ?_ _
    · exact same
    · exact entered

theorem Confined.enter {task : Task φ} {transition : Transition} (same : run.graph = graph)
    (known : graph.get? task.name = some task)
    (entered : ∀ name ∈ run.entered, name ∈ graph.reachable)
    (enters : transition.destination = some task.name) (reached : task.name ∈ graph.reachable) :
    Confined graph (run.enter task transition) := by
  refine .stay same rfl known ?_ reached
  intro name member
  simp only [Run.entered, Run.enter, List.filterMap_append, List.mem_append] at member
  rcases member with before | newest
  · exact entered name before
  · obtain rfl : name = task.name := by simpa [enters] using newest
    exact reached

/-- Whichever way a reachable task is left, what it leads to is reachable. -/
theorem Confined.route {task : Task φ} {outcome : Outcome} (same : run.graph = graph)
    (known : graph.get? task.name = some task)
    (entered : ∀ name ∈ run.entered, name ∈ graph.reachable)
    (reached : task.name ∈ graph.reachable) : Confined graph (run.route task outcome) := by
  unfold Run.route
  rcases task.nextMove_cases run.payload outcome with
    ⟨edge, selects, moved⟩ | ⟨fault, output, chained, refuses, moved⟩
  · rw [moved]
    cases onward : edge.target with
    | none =>
      refine .aside same rfl ?_
      simpa [Move.along, Run.take, Run.leave, Run.entered, Transition.exit] using entered
    | some target =>
      simp only [Move.along, Run.take]
      split
      · rename_i next found
        rw [same] at found
        have name := (TaskGraph.mem_of_get? found).2
        have onto : target ∈ graph.reachable :=
          TaskGraph.target_mem_reachable known reached selects.edge.1 onward found
        refine .enter same ?_ entered rfl ?_
        · rwa [name]
        · rwa [name]
      · exact .aside same rfl entered
  · rw [moved]
    exact .aside same rfl entered

/-- Every turn keeps a run confined, whatever its steps and its bus do. -/
theorem Confined.advance (confined : Confined graph run) (engine : Engine φ) :
    Confined graph (run.advance engine) := by
  obtain ⟨same, known, entered, here⟩ := confined
  unfold Run.advance
  cases phase : run.phase with
  | starting =>
    cases start : graph.startTask? with
    | none =>
      simp only [same, start]
      exact .aside same rfl entered
    | some task =>
      simp only [same, start]
      have known := TaskGraph.get?_of_mem (TaskGraph.startTask?_mem start)
      have reached := TaskGraph.start_mem_reachable start
      exact .announce same entered fun events => .enter same known entered rfl reached
  | entering task =>
    have stands : run.phase.task? = some task := by rw [phase]; rfl
    exact .announce same entered fun events =>
      .stay same rfl (known task stands) entered (here task stands)
  | calling task =>
    have stands : run.phase.task? = some task := by rw [phase]; rfl
    simp only [Run.call]
    split
    · exact .stay same rfl (known task stands) entered (here task stands)
    · exact .aside same rfl entered
    · exact .aside same rfl entered
  | reporting task outcome =>
    have stands := Run.task?_of_reporting phase
    exact .announce same entered fun events =>
      .route same (known task stands) entered (here task stands)
  | failing error => exact .announce same entered fun events => .aside same rfl entered
  | completing => exact .announce same entered fun events => .aside same rfl entered
  | stalled => exact ⟨same, known, entered, here⟩
  | ended ending => exact ⟨same, known, entered, here⟩

end Confined

namespace Engine

theorem confined (engine : Engine φ) (graph : TaskGraph φ) (input : Value) (context : Context)
    (turns : Nat) : Confined graph (engine.run turns graph input context) := by
  induction turns with
  | zero => exact .aside rfl rfl (by simp [Engine.run, Run.advanceBy, Run.start, Run.entered])
  | succ turns ih =>
    rw [engine.run_succ]
    exact ih.advance engine

variable {engine : Engine φ} {graph : TaskGraph φ} {input : Value} {context : Context}
  {turns : Nat}

theorem reachable_of_visit {visit : Visit φ}
    (made : visit ∈ engine.visits turns graph input context) :
    visit.task.name ∈ graph.reachable := by
  obtain ⟨position, found⟩ := List.mem_iff_getElem?.mp made
  obtain ⟨turn, _, calls, _⟩ := turn_of_visit found
  exact (engine.confined graph input context turn).here visit.task (Run.task?_of_visit? calls)

theorem reachable_of_visited {ending : Ending φ} {result : RunResult}
    (ended : (engine.run turns graph input context).ending? = some ending)
    (reported : ending.result? = some result) :
    ∀ name ∈ result.visited, name ∈ graph.reachable := by
  intro name member
  rw [(concludes_of_reported ended reported).visited_eq reported] at member
  obtain ⟨visit, made, rfl⟩ := List.mem_map.mp member
  exact reachable_of_visit made

end Engine

/-- A fault that is not about a pointer that leads nowhere. Of the faults that are about the
structure of a graph, only a choice without the selected branch is left. -/
structure Raised.Resolved (failure : Raised φ) : Prop where
  started : failure.fault.kind ≠ .startTaskNotFound
  found : ∀ target, failure.fault.kind ≠ .taskNotFound target
  unmapped : failure.fault.kind.isStructural = true →
    ∃ choice key, failure.fault.kind = .unmappedChoice choice key

theorem Raised.Resolved.of_other {failure : Raised φ}
    (other : failure.fault.kind.isStructural = false) : failure.Resolved where
  started := by
    intro kind
    rw [kind] at other
    cases other
  found := by
    intro target kind
    rw [kind] at other
    cases other
  unmapped := by simp [other]

theorem Concludes.resolved_of_closed {engine : Engine φ} {graph : TaskGraph φ} {input : Value}
    {context : Context} {visits : List (Visit φ)} {failure : Raised φ}
    (concludes : Concludes engine graph input context visits (.raised failure))
    (closed : graph.Closed) : failure.Resolved := by
  cases concludes with
  | empty empty => exact absurd empty closed.inhabited
  | @dangling _ _ visit _ _ _ journey settled selects onward missing =>
    have known := journey.visited_task visit (by simp)
    have inside := (TaskGraph.mem_of_get? known).1
    have led := closed.leads visit.task inside _ selects.edge.1 _ onward
    simp [TaskGraph.contains, missing] at led
  | refused journey settled refuses =>
    cases refuses with
    | unmapped =>
      refine ⟨?_, ?_, fun _ => ⟨_, _, rfl⟩⟩
      · rintro ⟨⟩
      · rintro target ⟨⟩
    | missed => exact .of_other rfl
  | escaped journey escaped =>
    have kind := Settlement.kind_of_escaped escaped
    exact .of_other (by simp [Raised.bare, FaultKind.isStructural, FaultKind.isAbort_iff.mp kind])

theorem Concludes.resolved {engine : Engine φ} {graph : TaskGraph φ} {input : Value}
    {context : Context} {visits : List (Visit φ)} {failure : Raised φ}
    (concludes : Concludes engine graph input context visits (.raised failure))
    (clean : graph.problems = []) : failure.Resolved :=
  concludes.resolved_of_closed (TaskGraph.closed_of_no_problems clean)

/-- On a graph without problems a run fails on no pointer, unless its bus raised the fault itself.
On every graph a run enters and calls only what the lint finds reachable. -/
theorem lint_is_sound (engine : Engine φ) (graph : TaskGraph φ) (input : Value)
    (context : Context) :
    (graph.problems = [] → ∀ turns failure,
      (engine.run turns graph input context).ending? = some (.raised failure) →
      (engine.Unhindered → failure.Resolved) ∧
        (failure.Resolved ∨ engine.Interrupts failure)) ∧
    ∀ turns,
      (∀ name ∈ (engine.run turns graph input context).entered,
        name ∈ graph.reachable ∧ .unreachable name ∉ graph.problems) ∧
      (∀ visit ∈ engine.visits turns graph input context, visit.task.name ∈ graph.reachable) ∧
      ∀ ending result, (engine.run turns graph input context).ending? = some ending →
        ending.result? = some result → ∀ name ∈ result.visited, name ∈ graph.reachable := by
  constructor
  · intro clean turns failure ended
    have settles : failure.Resolved ∨ engine.Interrupts failure := by
      rcases Engine.concludes_or_interrupts ended with concludes | ⟨error, same, interrupts⟩
      · exact .inl (concludes.resolved clean)
      · cases same
        exact .inr interrupts
    refine ⟨fun unhindered => ?_, settles⟩
    exact settles.resolve_right (unhindered.not_interrupts failure)
  · intro turns
    refine ⟨?_, fun visit made => Engine.reachable_of_visit made,
      fun ending result ended reported => Engine.reachable_of_visited ended reported⟩
    intro name member
    have reached := (engine.confined graph input context turns).entered name member
    refine ⟨reached, fun reported => ?_⟩
    exact (TaskGraph.unreachable_mem_problems_iff.mp reported).2 reached

def Retry.mended : TaskGraph Step :=
  .ofList [recover, fetch,
    { check with routing := .choice (.ofList [("found", none), ("lost", some "recover")]) }]

theorem Retry.mended_reachable : Retry.mended.reachable = ["fetch", "check", "recover"] := by
  have start : Retry.mended.startTask? = some fetch := rfl
  have names : Retry.mended.names = ["recover", "fetch", "check"] := rfl
  have onward : Retry.mended.targetsOf "fetch" = ["check", "recover"] := rfl
  have checked : Retry.mended.targetsOf "check" = ["recover"] := rfl
  have back : Retry.mended.targetsOf "recover" = ["fetch"] := rfl
  simp [TaskGraph.reachable, start, names, Walk.order, Walk.explore, fetch, onward, checked, back]

theorem retry_lint_is_sound :
    Retry.mended.problems = [] ∧ Retry.engine.Unhindered ∧
      (∃ failure,
        (Retry.engine.run 14 Retry.mended .null (Retry.reply "gone")).ending? =
          some (.raised failure) ∧
        failure.fault = .unmappedChoice "check" "gone" ∧ failure.Resolved) ∧
      ∀ name ∈ (Retry.engine.run 14 Retry.mended .null (Retry.reply "gone")).entered,
        name ∈ Retry.mended.reachable ∧ .unreachable name ∉ Retry.mended.problems := by
  have start : Retry.mended.startTask? = some Retry.fetch := rfl
  have clean : Retry.mended.problems = [] := by
    simp only [TaskGraph.problems, start, TaskGraph.reachProblems, Retry.mended_reachable]
    rfl
  have sound := lint_is_sound Retry.engine Retry.mended .null (Retry.reply "gone")
  refine ⟨clean, Retry.unhindered, ⟨_, rfl, rfl, ?_⟩, (sound.2 14).1⟩
  exact (sound.1 clean 14 _ rfl).1 Retry.unhindered

end Flowtrace
