import Flowtrace.Proofs.Turns

/-! What a run announces. A turn announces at most one event, and which one it is depends on the
run alone. The bus decides how the run goes on: it takes the event, or the run is interrupted. -/

namespace Flowtrace

variable {φ : Type}

namespace Run

def announcement? (run : Run φ) : Option Event :=
  match run.phase with
  | .starting => run.graph.startTask?.map fun task => .workflowStarted task.name
  | .entering task => some (.stepStarted task.name)
  | .reporting task outcome => some (outcomeEvent task outcome)
  | .failing error =>
    some (.workflowFailed error.fault.message error.fault.className run.current)
  | .completing => some (.workflowCompleted run.payload)
  | .calling _ | .stalled | .ended _ => none

theorem interrupt_events (run : Run φ) (fault : Fault) :
    (run.interrupt fault).events = run.events := by
  unfold interrupt
  split
  · rfl
  · rfl
  · split <;> rfl

theorem route_events (run : Run φ) (task : Task φ) (outcome : Outcome) :
    (run.route task outcome).events = run.events := by
  unfold route
  cases task.nextMove run.payload outcome with
  | follow edge target produced carried =>
    simp only [take]
    split <;> rfl
  | leave edge output => rfl
  | refuse fault output chained => rfl

theorem announce_events {engine : Engine φ} {event : Event} {next : Run φ → Run φ} {run : Run φ}
    (kept : ∀ events, (next { run with events }).events = events) :
    (run.announce engine event next).events = run.events ++ engine.told event := by
  rw [announce_eq]
  split
  · exact kept _
  · exact interrupt_events _ _

/-- The bus is told of an event whether it takes it or not. -/
theorem advance_events (engine : Engine φ) (run : Run φ) :
    (run.advance engine).events =
      run.events ++ (run.announcement?.map engine.told).getD [] := by
  unfold advance announcement?
  cases phase : run.phase with
  | starting =>
    cases start : run.graph.startTask? with
    | none => simp [failWith]
    | some task => exact announce_events fun _ => rfl
  | entering task => exact announce_events fun _ => rfl
  | calling task =>
    simp only [call, Option.map_none, Option.getD_none, List.append_nil]
    split <;> rfl
  | reporting task outcome => exact announce_events fun events => route_events _ task outcome
  | failing error => exact announce_events fun _ => rfl
  | completing => exact announce_events fun _ => rfl
  | stalled => simp
  | ended ending => simp

theorem advance_of_refused {engine : Engine φ} {run : Run φ} {event : Event} {fault : Fault}
    (announces : run.announcement? = some event)
    (refused : engine.refusal? event.kind = some fault) :
    ∃ told : Run φ, run.advance engine = told.interrupt fault ∧ told.phase = run.phase ∧
      told.current = run.current ∧ told.events = run.events ++ engine.told event := by
  unfold announcement? at announces
  unfold advance
  cases phase : run.phase with
  | starting =>
    rw [phase] at announces
    obtain ⟨task, start, rfl⟩ := Option.map_eq_some_iff.mp announces
    simp only [start, announce_eq, refused]
    exact ⟨_, rfl, phase, rfl, rfl⟩
  | calling task => simp [phase] at announces
  | stalled => simp [phase] at announces
  | ended ending => simp [phase] at announces
  | entering task | reporting task outcome | failing error | completing =>
    simp only [phase, Option.some.injEq] at announces
    subst announces
    simp only [announce_eq, refused]
    exact ⟨_, rfl, phase, rfl, rfl⟩

/-- Engines whose buses answer the next event alike take the run the same way. -/
theorem advance_congr {first second : Engine φ} {run : Run φ} (steps : first.steps = second.steps)
    (deadline : first.deadline = second.deadline)
    (alike : ∀ event, run.announcement? = some event →
      first.refusal? event.kind = second.refusal? event.kind ∧
        first.told event = second.told event) :
    run.advance first = run.advance second := by
  unfold announcement? at alike
  unfold advance
  cases phase : run.phase with
  | starting =>
    cases start : run.graph.startTask? with
    | none => rfl
    | some task =>
      obtain ⟨refusal, told⟩ := alike (.workflowStarted task.name) (by simp [phase, start])
      simp only [announce_eq, refusal, told]
  | calling task => simp only [call, steps, deadline]
  | stalled => rfl
  | ended ending => rfl
  | entering task | reporting task outcome | failing error | completing =>
    obtain ⟨refusal, told⟩ := alike _ (by rw [phase])
    simp only [announce_eq, refusal, told]

end Run
end Flowtrace
