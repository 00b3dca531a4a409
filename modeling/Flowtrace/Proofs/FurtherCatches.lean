import Flowtrace.Proofs.Recasting

/-! Catch entries declared after those that the activities of a graph have. An entry that is tried
later never wins over one that matched before, and nothing but a failure asks for an entry at all.
So the only turn that such entries change is one that would have failed the run with the failure of
its last step. -/

namespace Flowtrace

variable {φ : Type}

/-- The same routing, but for further catch entries after those of an activity. -/
inductive Routing.Guards : Routing → Routing → Prop where
  | same (routing : Routing) : Guards routing routing
  | first (next : Pointer) (catches : OrderedMap String Pointer) :
      Guards (.activity next (some catches)) (.activity next none)
  | further (next : Pointer) {catches more : OrderedMap String Pointer}
      (added : List (String × Pointer)) (entries : more.entries = catches.entries ++ added) :
      Guards (.activity next (some more)) (.activity next (some catches))

structure Task.Guards (guarded task : Task φ) : Prop where
  name : guarded.name = task.name
  step : guarded.step = task.step
  start : guarded.start = task.start
  routing : guarded.routing.Guards task.routing

def TaskGraph.Guards (guarded graph : TaskGraph φ) : Prop :=
  List.Forall₂ Task.Guards guarded.tasks graph.tasks

namespace Task.Guards

variable {guarded task : Task φ}

theorem catchEntries (guards : guarded.Guards task) :
    ∃ added, guarded.routing.catchEntries = task.routing.catchEntries ++ added := by
  obtain ⟨_, _, _, routing⟩ := guards
  generalize guarded.routing = after at routing
  generalize task.routing = before at routing
  cases routing with
  | same routing => exact ⟨[], (List.append_nil _).symm⟩
  | first next catches => exact ⟨catches.entries, rfl⟩
  | further next added entries => exact ⟨added, entries⟩

theorem afterSuccess (guards : guarded.Guards task) (payload value : Value) :
    guarded.afterSuccess payload value = task.afterSuccess payload value := by
  obtain ⟨name, _, _, routing⟩ := guards
  unfold Task.afterSuccess
  rw [name]
  generalize guarded.routing = after at routing
  generalize task.routing = before at routing
  cases routing with
  | same routing => rfl
  | first next catches => rfl
  | further next added entries => rfl

theorem catchFor?_of_caught (guards : guarded.Guards task) {error : Value}
    (caught : ¬ task.Misses error) : guarded.catchFor? error = task.catchFor? error := by
  obtain ⟨added, entries⟩ := guards.catchEntries
  cases found : task.catchFor? error with
  | none => exact absurd ((task.catchFor?_eq_none_iff error).mp found) caught
  | some entry =>
    rw [Task.catchFor?] at found ⊢
    rw [entries, List.find?_append, found, Option.some_or]

theorem routes_of_caught (guards : guarded.Guards task) {outcome : Outcome}
    (caught : ∀ error, outcome = .failure error → ¬ task.Misses error) (payload : Value) :
    guarded.nextMove payload outcome = task.nextMove payload outcome ∧
      guarded.catchNotes outcome = task.catchNotes outcome := by
  cases outcome with
  | success value => exact ⟨guards.afterSuccess payload value, rfl⟩
  | failure error =>
    have taken := caught error rfl
    have same := guards.catchFor?_of_caught taken
    obtain ⟨position, pattern, target, catches⟩ := Task.catches_of_not_misses taken
    have found := (task.catchFor?_eq_some_iff error pattern target).mpr ⟨position, catches⟩
    simp [nextMove, catchNotes, afterFailure, same, found, guards.name]

end Task.Guards

theorem TaskGraph.Guards.related {guarded graph : TaskGraph φ} (guards : guarded.Guards graph) :
    Related Task.Guards guarded graph :=
  ⟨guards, (·.name), (·.start)⟩

def Run.Unguarded (engine : Engine φ) (run : Run φ) : Prop :=
  ∃ task error, run.phase = .reporting task (.failure error) ∧
    engine.refusal? .stepFailed = none ∧ task.Misses error

section Guards

variable {engine : Engine φ} {guarded graph : TaskGraph φ} {input : Value} {context : Context}

theorem Confined.agrees_or_unguarded {run : Run φ} (confined : Confined graph run)
    (guards : guarded.Guards graph) (engine : Engine φ) :
    run.Agrees engine guarded ∨ run.Unguarded engine := by
  obtain rfl := confined.same
  by_cases unguarded : run.Unguarded engine
  · exact .inr unguarded
  · refine .inl (.of_related confined guards.related ?_ ?_)
    · intro guarded task alike
      exact congrArg engine.steps alike.step
    · intro task outcome phase taken alike
      apply alike.routes_of_caught
      rintro error rfl missed
      exact unguarded ⟨task, error, phase, taken, missed⟩

theorem Engine.failing_of_unguarded {turn : Nat}
    (unguarded : (engine.run turn graph input context).Unguarded engine) :
    ∃ failure step reason,
      (engine.run (turn + 1) graph input context).phase = .failing failure ∧
      failure.result ≠ none ∧ failure.fault.kind = .stepExecution step reason := by
  obtain ⟨task, error, phase, taken, missed⟩ := unguarded
  obtain ⟨notes, events, routed⟩ := Run.advance_of_reporting phase taken
  have uncaught := (task.catchFor?_eq_none_iff error).mpr missed
  rw [engine.run_succ, routed]
  simp only [Run.route, Task.nextMove, Task.afterFailure, uncaught, Run.take, Run.failWith]
  exact ⟨_, _, _, rfl, by simp, rfl⟩

/-- Once a run has failed it calls no step, makes no move and follows no catch entry: it ends, with
its fault if the bus takes the report. -/
theorem Engine.settled_of_failing {turn : Nat} {failure : Raised φ}
    (failing : (engine.run turn graph input context).phase = .failing failure) {later : Nat}
    (after : turn < later) :
    engine.visits later graph input context = engine.visits turn graph input context ∧
      (engine.run later graph input context).transitions =
        (engine.run turn graph input context).transitions ∧
      (engine.refusal? .workflowFailed = none →
        (engine.run later graph input context).ending? = some (.raised failure)) := by
  obtain ⟨ending, ended, transitions, ways⟩ := ended_of_failing failing
  have silent : (engine.run turn graph input context).visit? = none := by
    simp [Run.visit?, failing]
  refine ⟨?_, ?_, ?_⟩
  · rw [engine.visits_of_ended graph input context after ended, engine.visits_succ, silent]
    simp
  · rw [engine.run_of_ended graph input context after ended, transitions]
  · intro told
    rw [engine.run_of_ended graph input context after ended, ended]
    rcases ways with rfl | ⟨fault, refused, _⟩
    · rfl
    · rw [told] at refused
      cases refused

end Guards

/-- Further catch entries change no run that succeeds or that fails on the structure of its graph,
be it a fault of its own or, unless it was raised at the report of a failure, one of its bus. They
change no other run either, unless it fails with the failure of a step. No fault that a run has
once raised is ever caught. -/
theorem further_catches_are_conservative (engine : Engine φ) {guarded graph : TaskGraph φ}
    (guards : guarded.Guards graph) (input : Value) (context : Context) :
    (∀ turns ending, (engine.run turns graph input context).ending? = some ending →
      (∀ failure, ending = .raised failure → failure.fault.kind.isStructural = true ∧
        (failure.result ≠ none ∨ engine.refusal? .workflowFailed = none)) →
      engine.run turns guarded input context =
        (engine.run turns graph input context).recast guarded) ∧
    (engine.refusal? .workflowFailed = none → ∀ turns,
      engine.run turns guarded input context =
        (engine.run turns graph input context).recast guarded ∨
      ∃ failure step reason,
        (engine.run (turns + 1) graph input context).ending? = some (.raised failure) ∧
        failure.result ≠ none ∧ failure.fault.kind = .stepExecution step reason) ∧
    ∀ turn failure, (engine.run turn guarded input context).phase = .failing failure →
      ∀ later, turn < later →
        engine.visits later guarded input context = engine.visits turn guarded input context ∧
        (engine.run later guarded input context).transitions =
          (engine.run turn guarded input context).transitions ∧
        (engine.refusal? .workflowFailed = none →
          (engine.run later guarded input context).ending? = some (.raised failure)) := by
  have parts := Engine.recast_or_breaks (Run.Unguarded engine) fun turn =>
    (engine.confined graph input context turn).agrees_or_unguarded guards engine
  refine ⟨?_, ?_, fun turn failure failing later after => Engine.settled_of_failing failing after⟩
  · intro turns ending ended structural
    rcases parts turns with same | ⟨turn, sooner, _, unguarded⟩
    · exact same
    · -- The run would have failed with the failure of its step, which is no fault of its graph.
      obtain ⟨failure, step, reason, failing, _, kind⟩ := Engine.failing_of_unguarded unguarded
      have own : ending.result? ≠ none ∨ engine.refusal? .workflowFailed = none := by
        cases ending with
        | returned result => exact .inl (by simp [Ending.result?])
        | raised error => exact (structural error rfl).2
      have raised := Engine.ending_of_failing failing ended own
      have structure_fault := (structural failure raised).1
      simp [kind, FaultKind.isStructural] at structure_fault
  · intro told turns
    rcases parts turns with same | ⟨turn, sooner, _, unguarded⟩
    · exact .inl same
    · obtain ⟨failure, step, reason, failing, own, kind⟩ := Engine.failing_of_unguarded unguarded
      have after : turn + 1 < turns + 1 := Nat.succ_lt_succ sooner
      exact .inr ⟨failure, step, reason, (Engine.settled_of_failing failing after).2.2 told, own,
        kind⟩

/-- The workflow that recovers from everything: an entry for the rest after the one that it has,
and a first entry where there was none. -/
def Retry.guarded : TaskGraph Step :=
  .ofList [{ recover with routing := .activity (some "fetch") (some (.ofList [("*", none)])) },
    { fetch with
      routing := .activity (some "check")
        (some (.ofList [("*Timeout*", some "recover"), ("*", none)])) },
    check]

theorem Retry.guarded_guards : Retry.guarded.Guards Retry.graph :=
  .cons ⟨rfl, rfl, rfl, .first _ _⟩
    (.cons ⟨rfl, rfl, rfl, .further _ [("*", none)] rfl⟩ (.cons ⟨rfl, rfl, rfl, .same _⟩ .nil))

theorem retry_further_catches_are_conservative :
    Retry.guarded.Guards Retry.graph ∧
      (Retry.engine.run 14 Retry.graph .null (Retry.reply "lost")).ending? =
        some (.raised Retry.lost) ∧
      Retry.lost.fault.kind.isStructural = true ∧ Retry.lost.result ≠ none ∧
      Retry.engine.run 14 Retry.guarded .null (Retry.reply "lost") =
        (Retry.engine.run 14 Retry.graph .null (Retry.reply "lost")).recast Retry.guarded := by
  have own : Retry.lost.result ≠ none := by simp [Retry.lost]
  refine ⟨Retry.guarded_guards, rfl, rfl, own, ?_⟩
  apply (further_catches_are_conservative Retry.engine Retry.guarded_guards .null
    (Retry.reply "lost")).1 14 (.raised Retry.lost) rfl
  rintro failure ⟨⟩
  exact ⟨rfl, .inl own⟩

end Flowtrace
