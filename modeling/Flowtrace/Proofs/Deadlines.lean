import Flowtrace.Proofs.FailureRouting
import Flowtrace.Proofs.Proceeding
import Flowtrace.Proofs.Twins

/-! Deadlines of steps. A step takes its time, and the deadline that a timeout sets catches up with
it or does not. A run under a deadline takes the course that it would take without one if each step
raised the timeout itself at the point where the deadline would catch it. So a deadline adds nothing
to what failures can do. -/

namespace Flowtrace

/-- How far a call has got that has not settled: the context that it has written so far, and the
notes of the runs that it has started. -/
structure Progress where
  context : Context
  notes : List Note

/-- A step that takes its time: what its calls come to if they are waited for, and how far they
have got when a timeout passes before they settle. A call that never settles overruns them all. -/
structure TimedStep where
  mode : StepMode
  act : Value → Context → Behaviour
  overrun? : (timeout payload : Value) → Context → Option Progress
  stalls : ∀ timeout payload context, (act payload context).settlement = .stalled →
    (overrun? timeout payload context).isSome

namespace TimedStep

/-- How far a call has got when its deadline catches up with it, if it does. A deadline that has
passed catches it before it begins, and a direct step is never caught. -/
def caught? (step : TimedStep) (timeout payload : Value) (context : Context) : Option Progress :=
  match step.mode, Deadline.ofTimeout? timeout with
  | .awaited, some .passed => some ⟨context, []⟩
  | .awaited, some .ahead => step.overrun? timeout payload context
  | _, _ => none

/-- The step as it is seen up to its deadline: a call that is caught has not settled by then. -/
def seen (step : TimedStep) (timeout : Value) : Step where
  mode := step.mode
  act := fun payload context =>
    match step.caught? timeout payload context with
    | some progress => ⟨.stalled, progress.context, progress.notes⟩
    | none => step.act payload context

/-- The step that goes as far as its deadline would let it and then raises the timeout itself. -/
def cutOff (step : TimedStep) (timeout : Value) : TimedStep where
  mode := step.mode
  act := fun payload context =>
    match step.caught? timeout payload context with
    | some progress => ⟨.raised .timeout, progress.context, progress.notes⟩
    | none => step.act payload context
  overrun? := step.overrun?
  stalls := by
    intro other payload context stalled
    split at stalled
    · cases stalled
    · exact step.stalls other payload context stalled

def ofStep (step : Step) : TimedStep where
  mode := step.mode
  act := step.act
  overrun? := fun _ payload context =>
    match (step.act payload context).settlement with
    | .stalled => some ⟨(step.act payload context).context, (step.act payload context).notes⟩
    | _ => none
  stalls := by
    intro timeout payload context stalled
    rw [stalled]
    rfl

variable (step : TimedStep) (timeout payload : Value) (context : Context)

/-- A run under a deadline sees a caught call fail by itself, and every other call as it is. -/
theorem perform_seen :
    (step.seen timeout).perform (Deadline.ofTimeout? timeout) payload context =
      (step.cutOff timeout).act payload context := by
  have stalls := step.stalls timeout payload context
  cases mode : step.mode with
  | direct => simp [Step.perform, seen, cutOff, caught?, mode]
  | awaited =>
    cases deadline : Deadline.ofTimeout? timeout with
    | none => simp [Step.perform, seen, cutOff, caught?, mode, deadline]
    | some reached =>
      cases reached with
      | passed => simp [Step.perform, seen, cutOff, caught?, mode, deadline]
      | ahead =>
        simp only [Step.perform, seen, cutOff, caught?, mode, deadline]
        cases overrun : step.overrun? timeout payload context with
        | some progress => rfl
        | none =>
          -- A call that is not caught settles, so that it is not given up either.
          rw [overrun] at stalls
          simp only [Behaviour.givenUp]
          split
          · rename_i stalled
            cases stalls stalled
          · rfl

theorem caught?_null : step.caught? .null payload context = none := by
  unfold caught?
  split <;> simp_all [Deadline.ofTimeout?]

theorem perform_seen_null :
    (step.seen .null).perform none payload context = step.act payload context := by
  have whole := step.perform_seen .null payload context
  simp only [cutOff, caught?_null] at whole
  exact whole

theorem cutOff_of_direct (direct : step.mode = .direct) : step.cutOff timeout = step := by
  have free : ∀ payload context, step.caught? timeout payload context = none := by
    intro payload context
    simp only [caught?, direct]
  cases step
  simp only [cutOff, free]

end TimedStep

def Engine.timed (timeout : Value) (bus : Option Bus) : Engine TimedStep :=
  ⟨fun step => step.seen timeout, Deadline.ofTimeout? timeout, bus⟩

/-- The graph whose steps raise the timeout themselves where their deadline would catch them. -/
def TaskGraph.cutOff (graph : TaskGraph TimedStep) (timeout : Value) : TaskGraph TimedStep :=
  graph.withSteps fun task => task.step.cutOff timeout

/-- The first catch entry whose pattern matches the empty message of a timeout or its class. -/
structure Task.CatchesTimeout {φ : Type} (task : Task φ) (position : Nat) (pattern : String)
    (target : Pointer) : Prop where
  entry : task.routing.catchEntries[position]? = some (pattern, target)
  matching : matchesText pattern "" = true ∨ matchesText pattern "TimeoutError" = true
  first : ∀ (earlier : Nat) (other : String × Pointer), earlier < position →
    task.routing.catchEntries[earlier]? = some other →
    matchesText other.1 "" = false ∧ matchesText other.1 "TimeoutError" = false

theorem Fault.timeout_descriptions : timeout.toValue.descriptions = ["", "TimeoutError"] := by
  decide

theorem Task.CatchesTimeout.catches {φ : Type} {task : Task φ} {position : Nat} {pattern : String}
    {target : Pointer} (caught : task.CatchesTimeout position pattern target) :
    task.Catches Fault.timeout.toValue position pattern target where
  entry := caught.entry
  matching := by
    rw [Fault.timeout_descriptions]
    simpa using caught.matching
  first := by
    intro earlier other sooner held
    rw [Fault.timeout_descriptions]
    simpa using caught.first earlier other sooner held

section Caught

variable {φ : Type} {engine : Engine φ} {graph : TaskGraph φ} {input : Value} {context : Context}
  {turn : Nat} {visit : Visit φ} {error : Value}

/-- The task to which a catch entry routes is called with the failure and with the context that the
failed step has left. -/
theorem Engine.calls_handler {position : Nat} {pattern name : String} {next : Task φ}
    (calls : (engine.run turn graph input context).visit? = some visit)
    (failed : visit.conclusion engine = .settled (.failure error))
    (taken : engine.refusal? .stepFailed = none)
    (caught : visit.task.Catches error position pattern (some name))
    (found : graph.get? name = some next) :
    (engine.run (turn + 3) graph input context).visit? =
      some ⟨next, .caught pattern error, visit.left engine⟩ := by
  obtain ⟨settled, routed, same, _, left, _⟩ := routed_of_failure calls failed taken
  have entry := (visit.task.catchFor?_eq_some_iff error pattern (some name)).mpr ⟨position, caught⟩
  have told := (told_of_visit calls).2
  have kind : (Event.stepStarted next.name).kind = .stepStarted := rfl
  simp only [Task.afterFailure, entry, Move.along, Run.take, same, found] at routed
  rw [engine.run_succ, routed]
  simp only [Run.enter, Run.advance, Run.announce_eq, kind, told, Run.note, Run.visit?, left]
  rfl

end Caught

section Timed

variable (timeout : Value) (bus : Option Bus) (visit : Visit TimedStep)

theorem Visit.behaviour_timed :
    visit.behaviour (.timed timeout bus) =
      (visit.task.step.cutOff timeout).act visit.payload visit.context :=
  visit.task.step.perform_seen timeout visit.payload visit.context

theorem Visit.caught_timed {progress : Progress}
    (caught : visit.task.step.caught? timeout visit.payload visit.context = some progress) :
    visit.conclusion (.timed timeout bus) = .settled (.failure Fault.timeout.toValue) ∧
      visit.left (.timed timeout bus) = progress.context := by
  have behaviour : visit.behaviour (.timed timeout bus) =
      ⟨.raised .timeout, progress.context, progress.notes⟩ := by
    simp only [Visit.behaviour_timed, TimedStep.cutOff, caught]
  rw [Visit.conclusion, Visit.left, behaviour]
  exact ⟨rfl, rfl⟩

end Timed

/-- A deadline changes a run as steps would that raise the timeout themselves. So a call that is
caught is routed like any failure, behind the first pattern that matches it. -/
theorem timeouts_are_step_failures (timeout : Value) (bus : Option Bus)
    (graph : TaskGraph TimedStep) (input : Value) (context : Context) :
    (∀ turns, ((Engine.timed timeout bus).run turns graph input context).Repeats
      (graph.cutOff timeout)
      ((Engine.timed .null bus).run turns (graph.cutOff timeout) input context)) ∧
    (∀ step : TimedStep, step.mode = .direct → step.cutOff timeout = step) ∧
    ∀ turn visit progress,
      ((Engine.timed timeout bus).run turn graph input context).visit? = some visit →
      visit.task.step.caught? timeout visit.payload visit.context = some progress →
      visit.conclusion (.timed timeout bus) = .settled (.failure Fault.timeout.toValue) ∧
      visit.left (.timed timeout bus) = progress.context ∧
      ((Engine.timed timeout bus).refusal? .stepFailed = none →
        ∀ position pattern target, visit.task.CatchesTimeout position pattern target →
          Takes (.timed timeout bus) graph input context turn visit pattern target
            (.caught pattern Fault.timeout.toValue) ∧
          ∀ name next, target = some name → graph.get? name = some next →
            ((Engine.timed timeout bus).run (turn + 3) graph input context).visit? =
              some ⟨next, .caught pattern Fault.timeout.toValue, progress.context⟩) := by
  refine ⟨fun turns => ?_, fun step => step.cutOff_of_direct timeout, ?_⟩
  · have told : (Engine.timed .null bus).bus = (Engine.timed timeout bus).bus := rfl
    refine Engine.repeats_of_steps told _ ?_ turns input context
    intro task _ payload context
    have same : (⟨{ task with step := task.step.cutOff timeout }, payload, context⟩ :
        Visit TimedStep).behaviour (.timed .null bus) =
          (⟨task, payload, context⟩ : Visit TimedStep).behaviour (.timed timeout bus) :=
      ((task.step.cutOff timeout).perform_seen_null payload context).trans
        (Visit.behaviour_timed timeout bus ⟨task, payload, context⟩).symm
    exact ⟨congrArg (·.settlement.conclusion) same, congrArg (·.context) same⟩
  · intro turn visit progress calls caught
    obtain ⟨failed, left⟩ := visit.caught_timed timeout bus caught
    refine ⟨failed, left, fun taken position pattern target first => ⟨?_, ?_⟩⟩
    · exact Engine.takes_of_catches calls failed taken first.catches
    · rintro name next rfl found
      rw [← left]
      exact Engine.calls_handler calls failed taken first.catches found

def Retry.slowFetch : TimedStep where
  mode := .awaited
  act := fun payload context => ⟨.returned payload, context.set "asked" payload, []⟩
  overrun? := fun _ payload context => some ⟨context.set "asked" payload, []⟩
  stalls := fun _ _ _ _ => rfl

def Retry.slow : TaskGraph TimedStep :=
  .ofList [⟨"recover", .ofStep recover.step, recover.routing, false⟩,
    ⟨"fetch", slowFetch, fetch.routing, true⟩,
    ⟨"check", .ofStep check.step, check.routing, false⟩]

theorem retry_recovers_from_its_deadline :
    ((Engine.timed (.int 1) (some .recording)).run 14 Retry.slow .null
        (Retry.reply "found")).Repeats (Retry.slow.cutOff (.int 1))
      ((Engine.timed .null (some .recording)).run 14 (Retry.slow.cutOff (.int 1)) .null
        (Retry.reply "found")) ∧
    (TimedStep.ofStep Retry.check.step).cutOff (.int 1) = .ofStep Retry.check.step ∧
    ((Engine.timed (.int 1) (some .recording)).run 2 Retry.slow .null
        (Retry.reply "found")).visit? =
      some ⟨⟨"fetch", Retry.slowFetch, Retry.fetch.routing, true⟩, .null, Retry.reply "found"⟩ ∧
    ((Engine.timed (.int 1) (some .recording)).run 5 Retry.slow .null
        (Retry.reply "found")).visit? =
      some ⟨⟨"recover", .ofStep Retry.recover.step, Retry.recover.routing, false⟩,
        .caught "*Timeout*" Fault.timeout.toValue, (Retry.reply "found").set "asked" .null⟩ := by
  obtain ⟨repeats, direct, caught⟩ := timeouts_are_step_failures (.int 1) (some .recording)
    Retry.slow .null (Retry.reply "found")
  have calls : ((Engine.timed (.int 1) (some .recording)).run 2 Retry.slow .null
      (Retry.reply "found")).visit? = some ⟨⟨"fetch", Retry.slowFetch, Retry.fetch.routing, true⟩,
        .null, Retry.reply "found"⟩ := rfl
  refine ⟨repeats 14, direct _ rfl, calls, ?_⟩
  obtain ⟨_, _, routes⟩ := caught 2 _ ⟨(Retry.reply "found").set "asked" .null, []⟩ calls rfl
  have first : (⟨"fetch", Retry.slowFetch, Retry.fetch.routing, true⟩ :
      Task TimedStep).CatchesTimeout 0 "*Timeout*" (some "recover") :=
    ⟨rfl, .inr (by decide), by simp⟩
  exact (routes rfl 0 _ _ first).2 "recover" _ rfl rfl

end Flowtrace
