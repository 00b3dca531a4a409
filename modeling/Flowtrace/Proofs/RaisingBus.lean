import Flowtrace.Proofs.EventProtocol
import Flowtrace.Proofs.Isolation

/-! A bus that raises a fault at every event of one kind. Until the first such event the run is the
one that a bus which takes everything would see. From there on it only ends: it may still report
the fault, but it calls no step. -/

namespace Flowtrace

variable {φ : Type}

def Engine.withBus (engine : Engine φ) (bus : Bus) : Engine φ := { engine with bus := some bus }

/-- What a run still announces when its bus has raised a fault at an event: the fault, if it is
of the kind that runs report and the run has not begun to report its end. -/
def Event.aftermath (fault : Fault) (event : Event) : List Event :=
  if fault.kind.isExecution then
    match event with
    | .workflowStarted _ => [.workflowFailed fault.message fault.className none]
    | .stepStarted task | .stepCompleted task | .stepFailed task _ =>
      [.workflowFailed fault.message fault.className (some task)]
    | .workflowFailed .. | .workflowCompleted _ => []
  else []

namespace Engine

variable {engine : Engine φ} {kind : EventKind} {fault : Fault}

theorem refusal?_recording (other : EventKind) :
    (engine.withBus .recording).refusal? other = none := by
  simp [refusal?, withBus, Bus.recording]

theorem refusal?_refusing :
    (engine.withBus (.refusing kind fault)).refusal? kind = some fault.awaited := by
  simp [refusal?, withBus, Bus.refusing]

theorem refusal?_refusing_other {other : EventKind} (different : other ≠ kind) :
    (engine.withBus (.refusing kind fault)).refusal? other = none := by
  simp [refusal?, withBus, Bus.refusing, different]

theorem told_recording (event : Event) : (engine.withBus .recording).told event = [event] := by
  simp [told, withBus, Bus.recording]

theorem told_refusing (event : Event) :
    (engine.withBus (.refusing kind fault)).told event = [event] := by
  simp [told, withBus, Bus.refusing]

end Engine

namespace Run

variable {run : Run φ}

theorem visit?_of_announcement {event : Event} (announces : run.announcement? = some event) :
    run.visit? = none := by
  unfold announcement? at announces
  unfold visit?
  cases phase : run.phase with
  | calling task => simp [phase] at announces
  | _ => rfl

theorem interrupt_of_final
    (final : (∃ error, run.phase = .failing error) ∨ run.phase = .completing) (fault : Fault) :
    run.interrupt fault = { run with phase := .ended (.raised (.bare fault)) } := by
  unfold interrupt
  rcases final with ⟨error, phase⟩ | phase
  · rw [phase]
  · rw [phase]

theorem interrupt_of_midway (failing : ∀ error, run.phase ≠ .failing error)
    (completing : run.phase ≠ .completing) (fault : Fault) :
    run.interrupt fault = { run with
      phase := if fault.kind.isExecution then .failing (.bare fault)
        else .ended (.raised (.bare fault)) } := by
  unfold interrupt
  split
  · rename_i error phase
    exact absurd phase (failing error)
  · rename_i phase
    exact absurd phase completing
  · split <;> rfl

end Run

/-- A run that announces its end leaves nothing to announce after a fault; before that it would
report the fault with the task that is current. -/
theorem Narrating.aftermath {engine : Engine φ} {graph : TaskGraph φ} {visits : List (Visit φ)}
    {run : Run φ} {event : Event} (narrating : Narrating engine graph visits run)
    (announces : run.announcement? = some event) :
    (((∃ error, run.phase = .failing error) ∨ run.phase = .completing) ∧
      ∀ fault, event.aftermath fault = []) ∨
    ((∀ error, run.phase ≠ .failing error) ∧ run.phase ≠ .completing ∧
      event.kind ≠ .workflowFailed ∧
      ∀ fault, event.aftermath fault =
        if fault.kind.isExecution then
          [.workflowFailed fault.message fault.className run.current]
        else []) := by
  have heard := narrating.heard
  unfold Run.announcement? at announces
  cases phase : run.phase with
  | starting =>
    rw [phase] at announces heard
    obtain ⟨task, _, rfl⟩ := Option.map_eq_some_iff.mp announces
    refine .inr ⟨by simp, by simp, by simp [Event.kind], fun fault => ?_⟩
    rw [heard.2.2]
    rfl
  | entering task =>
    simp only [phase, Option.some.injEq] at announces
    subst announces
    rw [phase] at heard
    refine .inr ⟨by simp, by simp, by simp [Event.kind], fun fault => ?_⟩
    rw [heard.2]
    rfl
  | reporting task outcome =>
    simp only [phase, Option.some.injEq] at announces
    subst announces
    rw [phase] at heard
    obtain ⟨_, _, _, _, _, _, current⟩ := heard
    refine .inr ⟨by simp, by simp, ?_, fun fault => ?_⟩
    · cases outcome <;> simp [Run.outcomeEvent, Event.kind]
    · rw [current]
      cases outcome <;> rfl
  | failing error =>
    simp only [phase, Option.some.injEq] at announces
    subst announces
    exact .inl ⟨.inl ⟨error, rfl⟩, fun fault => by simp [Event.aftermath]⟩
  | completing =>
    simp only [phase, Option.some.injEq] at announces
    subst announces
    exact .inl ⟨.inr rfl, fun fault => by simp [Event.aftermath]⟩
  | calling task => simp [phase] at announces
  | stalled => simp [phase] at announces
  | ended ending => simp [phase] at announces

section Cut

variable {engine : Engine φ} {graph : TaskGraph φ} {input : Value} {context : Context}
  {kind : EventKind}

theorem Engine.recording_events_succ (engine : Engine φ) (graph : TaskGraph φ) (input : Value)
    (context : Context) (turns : Nat) :
    ((engine.withBus .recording).run (turns + 1) graph input context).events =
      ((engine.withBus .recording).run turns graph input context).events ++
        ((engine.withBus .recording).run turns graph input context).announcement?.toList := by
  rw [Engine.run_succ, Run.advance_events]
  cases ((engine.withBus .recording).run turns graph input context).announcement? with
  | none => rfl
  | some event => simp [Engine.told_recording]

theorem Engine.agree_of_silent (fault : Fault) {turns : Nat}
    (silent : ∀ event ∈ ((engine.withBus .recording).run turns graph input context).events,
      event.kind ≠ kind) :
    (engine.withBus (.refusing kind fault)).run turns graph input context =
        (engine.withBus .recording).run turns graph input context ∧
      (engine.withBus (.refusing kind fault)).visits turns graph input context =
        (engine.withBus .recording).visits turns graph input context := by
  induction turns with
  | zero => exact ⟨rfl, rfl⟩
  | succ turns ih =>
    rw [Engine.recording_events_succ] at silent
    obtain ⟨runs, visits⟩ := ih fun event member =>
      silent event (List.mem_append_left _ member)
    rw [Engine.run_succ, Engine.run_succ, Engine.visits_succ, Engine.visits_succ, runs, visits]
    refine ⟨Run.advance_congr rfl rfl ?_, rfl⟩
    intro event announces
    have other := silent event (List.mem_append_right _ (by simp [announces]))
    rw [Engine.refusal?_recording, Engine.refusal?_refusing_other other, Engine.told_recording,
      Engine.told_refusing]
    exact ⟨rfl, rfl⟩

theorem Engine.first_announcement {turns : Nat}
    (announced : ∃ event ∈ ((engine.withBus .recording).run turns graph input context).events,
      event.kind = kind) :
    ∃ turn event, ((engine.withBus .recording).run turn graph input context).announcement? =
        some event ∧ event.kind = kind ∧
      ∀ earlier ∈ ((engine.withBus .recording).run turn graph input context).events,
        earlier.kind ≠ kind := by
  induction turns with
  | zero =>
    obtain ⟨event, member, _⟩ := announced
    cases member
  | succ turns ih =>
    by_cases before : ∃ event ∈ ((engine.withBus .recording).run turns graph input context).events,
        event.kind = kind
    · exact ih before
    · obtain ⟨event, member, same⟩ := announced
      rw [Engine.recording_events_succ] at member
      rcases List.mem_append.mp member with earlier | newest
      · exact absurd ⟨event, earlier, same⟩ before
      · exact ⟨turns, event, Option.mem_toList.mp newest, same,
          fun earlier inside equal => before ⟨earlier, inside, equal⟩⟩

end Cut

/-- From the first event of the kind on, the run only ends, with the fault as it arrives from the
bus. It calls no further step, and announces no more than the report of that fault. -/
structure CutShort (engine : Engine φ) (graph : TaskGraph φ) (input : Value) (context : Context)
    (kind : EventKind) (fault : Fault) (turn : Nat) (event : Event) : Prop where
  silent : ∀ earlier ∈ ((engine.withBus .recording).run turn graph input context).events,
    earlier.kind ≠ kind
  first : event.kind = kind
  announced : ((engine.withBus .recording).run (turn + 1) graph input context).events =
    ((engine.withBus .recording).run turn graph input context).events ++ [event]
  raises : ∀ later, turn + 2 ≤ later →
    ((engine.withBus (.refusing kind fault)).run later graph input context).ending? =
      some (.raised (.bare fault.awaited))
  events : ∀ later, turn + 2 ≤ later →
    ((engine.withBus (.refusing kind fault)).run later graph input context).events =
      ((engine.withBus .recording).run turn graph input context).events ++
        event :: event.aftermath fault.awaited
  calls : ∀ later, turn ≤ later →
    (engine.withBus (.refusing kind fault)).visits later graph input context =
      (engine.withBus .recording).visits turn graph input context

section CutShort

variable {engine : Engine φ} {graph : TaskGraph φ} {input : Value} {context : Context}
  {kind : EventKind} {event : Event}

theorem Run.ended_of_refused (fault : Fault) {run : Run φ} {visits : List (Visit φ)}
    (narrating : Narrating (engine.withBus .recording) graph visits run)
    (announces : run.announcement? = some event) :
    ∃ interrupted ended : Run φ,
      run.advance (engine.withBus (.refusing event.kind fault)) = interrupted ∧
      interrupted.visit? = none ∧
      interrupted.advance (engine.withBus (.refusing event.kind fault)) = ended ∧
      ended.ending? = some (.raised (.bare fault.awaited)) ∧
      ended.events = run.events ++ event :: event.aftermath fault.awaited := by
  have refused : (engine.withBus (.refusing event.kind fault)).refusal? event.kind =
      some fault.awaited := Engine.refusal?_refusing
  obtain ⟨told, interrupted, phase, current, events⟩ := Run.advance_of_refused announces refused
  rw [Engine.told_refusing] at events
  rcases narrating.aftermath announces with
    ⟨final, nothing⟩ | ⟨failing, completing, other, report⟩
  · -- The run was about to end, so it ends at once.
    rw [← phase] at final
    rw [Run.interrupt_of_final final] at interrupted
    refine ⟨_, _, interrupted, rfl, Run.advance_of_ended _ rfl, rfl, ?_⟩
    rw [nothing]
    exact events
  · rw [← phase] at failing completing
    rw [Run.interrupt_of_midway failing completing] at interrupted
    cases execution : fault.awaited.kind.isExecution with
    | true =>
      rw [execution, if_pos rfl] at interrupted
      refine ⟨_, _, interrupted, rfl, rfl, ?_, ?_⟩
      · exact Run.advance_of_failing rfl (Engine.refusal?_refusing_other other.symm)
      · rw [Run.advance_events, report, execution, if_pos rfl]
        simp [Run.announcement?, Engine.told_refusing, Raised.bare, events, current]
    | false =>
      rw [execution, if_neg (by simp)] at interrupted
      refine ⟨_, _, interrupted, rfl, Run.advance_of_ended _ rfl, rfl, ?_⟩
      rw [report, execution, if_neg (by simp)]
      exact events

theorem Engine.cutShort (fault : Fault) {turns : Nat}
    (announced : ∃ event ∈ ((engine.withBus .recording).run turns graph input context).events,
      event.kind = kind) :
    ∃ turn event, CutShort engine graph input context kind fault turn event := by
  obtain ⟨turn, event, announces, rfl, silent⟩ := Engine.first_announcement announced
  obtain ⟨runs, visits⟩ := Engine.agree_of_silent fault silent
  have narrating := (engine.withBus .recording).narrating rfl graph input context turn
  obtain ⟨interrupted, ended, cut, silence, last, raised, events⟩ :=
    Run.ended_of_refused fault narrating announces
  rw [← runs, ← Engine.run_succ] at cut
  rw [← cut, ← Engine.run_succ] at last
  rw [← last] at raised events
  have calls : (engine.withBus (.refusing event.kind fault)).visits (turn + 2) graph input
      context = (engine.withBus .recording).visits turn graph input context := by
    rw [Engine.visits_succ, Engine.visits_succ, cut, silence, runs,
      Run.visit?_of_announcement announces, visits]
    simp
  refine ⟨turn, event, silent, rfl, ?_, ?_, ?_, ?_⟩
  · rw [Engine.recording_events_succ, announces]
    rfl
  · intro later after
    rw [Engine.run_of_ended _ _ _ _ after raised]
    exact raised
  · intro later after
    rw [Engine.run_of_ended _ _ _ _ after raised]
    exact events
  · intro later after
    rcases Nat.lt_or_ge later (turn + 2) with sooner | done
    · rcases Nat.eq_or_lt_of_le after with rfl | next
      · exact visits
      · obtain rfl : later = turn + 1 := by omega
        rw [Engine.visits_succ, runs, Run.visit?_of_announcement announces, visits]
        simp
    · rw [Engine.visits_of_ended _ _ _ _ done raised, calls]

end CutShort

/-- A bus that raises a fault at every event of one kind changes nothing until the first of these
events, and from there on the run only ends. It ends with the very fault, unless that is the signal
that ends an iteration. No caller finds other objects in its context, and none that no step has
changed in place is changed. -/
theorem raising_bus_cuts_the_run_short (engine : Engine φ) (graph : TaskGraph φ) (input : Value)
    (context : Context) (kind : EventKind) (fault : Fault) :
    (∀ turns,
      (∀ event ∈ ((engine.withBus .recording).run turns graph input context).events,
        event.kind ≠ kind) →
      (engine.withBus (.refusing kind fault)).run turns graph input context =
        (engine.withBus .recording).run turns graph input context) ∧
    (∀ turns,
      (∃ event ∈ ((engine.withBus .recording).run turns graph input context).events,
        event.kind = kind) →
      ∃ turn event, CutShort engine graph input context kind fault turn event) ∧
    (fault.kind.isStop = false → fault.awaited = fault) ∧
    (fault.kind.isStop = true →
      fault.awaited = .exception "RuntimeError" "coroutine raised StopIteration") ∧
    ∀ (callers : Callers) (call : Call), call.Within callers →
      call.payload callers.memory = input → call.context callers.memory = context →
      ∀ (workings : Workings (engine.withBus (.refusing kind fault))) schedule,
        (∀ place, place < callers.contexts.length →
          ((Pool.start graph callers [call]).play workings schedule).memory.mappings[place]? =
            callers.memory.mappings[place]?) ∧
        (∀ address,
          address ∉ ((Pool.start graph callers [call]).play workings schedule).memory.changed →
          ((Pool.start graph callers [call]).play workings schedule).memory.objects[address]? =
            callers.objects[address]?) ∧
        (((Pool.start graph callers [call]).play workings schedule).memory.changed = [] →
          ∃ turns, ((Pool.start graph callers [call]).play workings schedule).runs =
            [(engine.withBus (.refusing kind fault)).run turns graph input context]) := by
  refine ⟨?_, ?_, ?_, ?_, ?_⟩
  · intro turns silent
    exact (Engine.agree_of_silent fault silent).1
  · intro turns announced
    exact Engine.cutShort fault announced
  · intro other
    simp only [Fault.awaited, other, Bool.false_eq_true, if_false]
  · intro signal
    simp only [Fault.awaited, signal, if_true]
  · rintro callers call within rfl rfl workings schedule
    have placed := (Placed.start graph callers [call]).play (by simpa using within) workings
      schedule
    exact ⟨placed.kept, placed.spared, Pool.runs_of_unchanged within schedule⟩

def Retry.outage : Fault := ⟨.execution "bus down", []⟩

theorem retry_cut_short_by_its_bus :
    (∃ event ∈ ((Retry.engine.withBus .recording).run 14 Retry.graph .null
        (Retry.reply "found")).events, event.kind = .stepFailed) ∧
      (∃ turn event, CutShort Retry.engine Retry.graph .null (Retry.reply "found") .stepFailed
        Retry.outage turn event) ∧
      Retry.outage.awaited = Retry.outage := by
  have announced : ∃ event ∈ ((Retry.engine.withBus .recording).run 14 Retry.graph .null
      (Retry.reply "found")).events, event.kind = .stepFailed :=
    ⟨.stepFailed "fetch" "", List.mem_of_getElem? (i := 2) rfl, rfl⟩
  obtain ⟨_, cut, itself, _⟩ := raising_bus_cuts_the_run_short Retry.engine Retry.graph .null
    (Retry.reply "found") .stepFailed Retry.outage
  exact ⟨announced, cut 14 announced, itself (by decide)⟩

def Retry.echo : Task Step where
  name := "fetch"
  step := ⟨.awaited, fun payload context => ⟨.returned payload, context, []⟩⟩
  routing := .activity none none
  start := true

def Retry.signal : Fault := ⟨.exception "StopIteration", []⟩

/-- A bus cannot end a run with the signal that ends an iteration: another fault arrives. -/
theorem retry_signal_arrives_as_another_fault :
    (∃ event ∈ ((Retry.engine.withBus .recording).run 1 (.ofList [Retry.echo]) .null []).events,
      event.kind = .workflowStarted) ∧
    ∀ turns, ((Retry.engine.withBus (.refusing .workflowStarted Retry.signal)).run turns
      (.ofList [Retry.echo]) .null []).ending? ≠ some (.raised (.bare Retry.signal)) := by
  refine ⟨⟨_, List.mem_singleton.mpr rfl, rfl⟩, ?_⟩
  have ended : ((Retry.engine.withBus (.refusing .workflowStarted Retry.signal)).run 1
      (.ofList [Retry.echo]) .null []).ending? =
        some (.raised (.bare (.exception "RuntimeError" "coroutine raised StopIteration"))) := rfl
  intro turns same
  cases turns with
  | zero => cases same
  | succ turns =>
    rw [Engine.run_of_ended _ _ _ _ (Nat.le_add_left 1 turns) ended, ended] at same
    simp [Raised.bare, Fault.exception, Retry.signal] at same

end Flowtrace
