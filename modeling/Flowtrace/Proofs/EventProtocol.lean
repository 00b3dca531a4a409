import Flowtrace.Proofs.Announcements
import Flowtrace.Proofs.PartialRuns

/-! The events of a run beside its calls. A run that its bus lets through announces its start, two
events for each call that settles, and how it ends. The events are announced by other turns than
those that record the trace, so that they name the same tasks is an invariant and not a
definition. -/

namespace Flowtrace

variable {φ : Type}

def Visit.announced (visit : Visit φ) (engine : Engine φ) : List Event :=
  .stepStarted visit.task.name ::
    match visit.conclusion engine with
    | .settled (.success _) => [.stepCompleted visit.task.name]
    | .settled (.failure error) => [.stepFailed visit.task.name error.plain]
    | .escaped _ | .stalled => []

/-- How a run announces its end. Only a fault that escapes from a step goes unannounced. -/
def Ending.announced (visits : List (Visit φ)) : Ending φ → List Event
  | .returned result => [.workflowCompleted result.output]
  | .raised failure =>
    if failure.fault.kind.isExecution then
      [.workflowFailed failure.fault.message failure.fault.className
        (visits.getLast?.map fun visit => visit.task.name)]
    else []

/-- What a run has announced once the given calls have been made. -/
def Engine.narration (engine : Engine φ) (graph : TaskGraph φ) (visits : List (Visit φ)) :
    List Event :=
  (graph.startTask?.map fun start => Event.workflowStarted start.name).toList ++
    visits.flatMap fun visit => visit.announced engine

namespace Event

def isTerminal : Event → Bool
  | .workflowFailed .. | .workflowCompleted _ => true
  | _ => false

def started? : Event → Option String
  | .stepStarted task => some task
  | _ => none

end Event

theorem Visit.announced_of_settled {visit : Visit φ} {engine : Engine φ} {outcome : Outcome}
    (settled : visit.conclusion engine = .settled outcome) :
    visit.announced engine =
      [.stepStarted visit.task.name, Run.outcomeEvent visit.task outcome] := by
  cases outcome <;> simp [announced, settled, Run.outcomeEvent]

theorem Visit.announced_of_escaped {visit : Visit φ} {engine : Engine φ} {fault : Fault}
    (escaped : visit.conclusion engine = .escaped fault) :
    visit.announced engine = [.stepStarted visit.task.name] := by
  simp [announced, escaped]

theorem Visit.announced_not_terminal (visit : Visit φ) (engine : Engine φ) :
    ∀ event ∈ visit.announced engine, event.isTerminal = false := by
  intro event member
  unfold announced at member
  split at member
  all_goals
    simp only [List.mem_cons, List.not_mem_nil, or_false] at member
  · rcases member with rfl | rfl <;> rfl
  · rcases member with rfl | rfl <;> rfl
  · exact member ▸ rfl
  · exact member ▸ rfl

theorem Visit.announced_started (visit : Visit φ) (engine : Engine φ) :
    (visit.announced engine).filterMap Event.started? = [visit.task.name] := by
  unfold announced
  split <;> rfl

theorem Visit.stepFailed_mem_announced {visit : Visit φ} {engine : Engine φ}
    {name message : String} :
    .stepFailed name message ∈ visit.announced engine ↔
      ∃ error, visit.conclusion engine = .settled (.failure error) ∧ name = visit.task.name ∧
        message = error.plain := by
  unfold announced
  split
  · simp_all
  · simp_all
  · simp_all
  · simp_all

theorem Ending.announced_terminal (visits : List (Visit φ)) (ending : Ending φ) :
    ∀ event ∈ ending.announced visits, event.isTerminal = true := by
  intro event member
  cases ending with
  | returned result =>
    obtain rfl := List.mem_singleton.mp member
    rfl
  | raised failure =>
    simp only [announced] at member
    split at member
    · obtain rfl := List.mem_singleton.mp member
      rfl
    · cases member

namespace Engine

variable {engine : Engine φ} {graph : TaskGraph φ} {visits : List (Visit φ)} {visit : Visit φ}

theorem narration_concat (engine : Engine φ) (graph : TaskGraph φ) (visits : List (Visit φ))
    (visit : Visit φ) :
    engine.narration graph (visits ++ [visit]) =
      engine.narration graph visits ++ visit.announced engine := by
  simp [narration, List.append_assoc]

theorem narration_of_start {start : Task φ} (selected : graph.startTask? = some start) :
    engine.narration graph visits =
      .workflowStarted start.name :: visits.flatMap fun visit => visit.announced engine := by
  simp [narration, selected]

theorem narration_not_terminal :
    ∀ event ∈ engine.narration graph visits, event.isTerminal = false := by
  intro event member
  rcases List.mem_append.mp member with opening | narrated
  · obtain ⟨start, _, rfl⟩ := Option.map_eq_some_iff.mp (Option.mem_toList.mp opening)
    rfl
  · obtain ⟨visit, _, announced⟩ := List.mem_flatMap.mp narrated
    exact visit.announced_not_terminal engine event announced

end Engine

def Heard (engine : Engine φ) (graph : TaskGraph φ) (visits : List (Visit φ)) (run : Run φ) :
    Phase φ → Prop
  | .starting => visits = [] ∧ run.events = [] ∧ run.current = none
  | .entering task =>
    run.events = engine.narration graph visits ∧ run.current = some task.name
  | .calling task =>
    run.events = engine.narration graph visits ++ [.stepStarted task.name] ∧
      run.current = some task.name
  | .reporting task outcome =>
    ∃ earlier visit, visits = earlier ++ [visit] ∧ visit.task = task ∧
      visit.conclusion engine = .settled outcome ∧
      run.events = engine.narration graph earlier ++ [.stepStarted task.name] ∧
      run.current = some task.name
  | .failing error =>
    error.fault.kind.isExecution = true ∧ run.events = engine.narration graph visits ∧
      run.current = visits.getLast?.map fun visit => visit.task.name
  | .completing => run.events = engine.narration graph visits
  | .stalled => True
  | .ended ending => run.events = engine.narration graph visits ++ ending.announced visits

structure Narrating (engine : Engine φ) (graph : TaskGraph φ) (visits : List (Visit φ))
    (run : Run φ) : Prop where
  same : run.graph = graph
  heard : Heard engine graph visits run run.phase

theorem Task.Refuses.isExecution {task : Task φ} {outcome : Outcome} {fault : Fault}
    {output : Value} {chained : Bool} (refuses : task.Refuses outcome fault output chained) :
    fault.kind.isExecution = true := by
  cases refuses <;> rfl

section Narrating

variable {engine : Engine φ} {graph : TaskGraph φ} {visits : List (Visit φ)} {run : Run φ}

theorem Run.announce_of_recording (recording : engine.bus = some .recording) (event : Event)
    (next : Run φ → Run φ) (run : Run φ) :
    run.announce engine event next = next { run with events := run.events ++ [event] } := by
  simp [Run.announce, recording, Bus.recording]

theorem Narrating.call {task : Task φ} (same : run.graph = graph)
    (heard : run.events = engine.narration graph visits ++ [.stepStarted task.name])
    (current : run.current = some task.name) :
    Narrating engine graph (visits ++ [⟨task, run.payload, run.context⟩])
      (run.call engine task) := by
  simp only [Run.call]
  split
  · rename_i outcome settled
    exact ⟨same, visits, _, rfl, rfl, settled, heard, current⟩
  · rename_i fault escaped
    have kind := Settlement.kind_of_escaped escaped
    have announced : (⟨task, run.payload, run.context⟩ : Visit φ).announced engine =
        [.stepStarted task.name] := Visit.announced_of_escaped escaped
    refine ⟨same, ?_⟩
    simp only [Heard, Engine.narration_concat, announced, heard, Ending.announced, Raised.bare,
      FaultKind.isExecution_of_isAbort kind, Bool.false_eq_true, if_false,
      List.append_nil]
  · exact ⟨same, trivial⟩

theorem Narrating.route {visit : Visit φ} {outcome : Outcome} (same : run.graph = graph)
    (settled : visit.conclusion engine = .settled outcome)
    (heard : run.events = engine.narration graph visits ++
      [.stepStarted visit.task.name, Run.outcomeEvent visit.task outcome])
    (current : run.current = some visit.task.name) :
    Narrating engine graph (visits ++ [visit]) (run.route visit.task outcome) := by
  have told : run.events = engine.narration graph (visits ++ [visit]) := by
    rw [Engine.narration_concat, Visit.announced_of_settled settled, heard]
  have last : run.current =
      (visits ++ [visit]).getLast?.map fun visit => visit.task.name := by
    simp [current]
  unfold Run.route
  rcases visit.task.nextMove_cases run.payload outcome with
    ⟨edge, selects, moved⟩ | ⟨fault, output, chained, refuses, moved⟩
  · rw [moved]
    cases onward : edge.target with
    | none => exact ⟨same, told⟩
    | some target =>
      simp only [Move.along, Run.take]
      split
      · exact ⟨same, told, rfl⟩
      · exact ⟨same, rfl, told, last⟩
  · rw [moved]
    exact ⟨same, refuses.isExecution, told, last⟩

/-- Every turn keeps the events beside the calls, as long as the bus takes them. -/
theorem Narrating.advance (recording : engine.bus = some .recording)
    (narrating : Narrating engine graph visits run) :
    Narrating engine graph (visits ++ run.visit?.toList) (run.advance engine) := by
  obtain ⟨same, heard⟩ := narrating
  cases phase : run.phase with
  | starting =>
    simp only [phase, Heard] at heard
    obtain ⟨rfl, events, current⟩ := heard
    simp only [Run.advance, Run.visit?, phase, Option.toList, List.append_nil]
    subst same
    split
    · rename_i missing
      exact ⟨rfl, rfl, by simp [Run.failWith, Engine.narration, missing, events], current⟩
    · rename_i task start
      rw [Run.announce_of_recording recording]
      refine ⟨rfl, ?_, rfl⟩
      simp [Run.enter, Run.note, Engine.narration, start, events]
  | entering task =>
    simp only [phase, Heard] at heard
    simp only [Run.advance, Run.visit?, phase, Option.toList, List.append_nil]
    rw [Run.announce_of_recording recording]
    exact ⟨same, by simp [Run.note, heard.1], heard.2⟩
  | calling task =>
    simp only [phase, Heard] at heard
    simp only [Run.advance, Run.visit?, phase, Option.toList]
    exact Narrating.call same heard.1 heard.2
  | reporting task outcome =>
    simp only [phase, Heard] at heard
    obtain ⟨earlier, visit, rfl, rfl, settled, events, current⟩ := heard
    simp only [Run.advance, Run.visit?, phase, Option.toList, List.append_nil]
    rw [Run.announce_of_recording recording]
    exact Narrating.route same settled (by simp [Run.note, events]) current
  | failing error =>
    simp only [phase, Heard] at heard
    obtain ⟨execution, events, current⟩ := heard
    simp only [Run.advance, Run.visit?, phase, Option.toList, List.append_nil]
    rw [Run.announce_of_recording recording]
    refine ⟨same, ?_⟩
    simp [Heard, Run.note, Ending.announced, execution, events, current]
  | completing =>
    simp only [phase, Heard] at heard
    simp only [Run.advance, Run.visit?, phase, Option.toList, List.append_nil]
    rw [Run.announce_of_recording recording]
    refine ⟨same, ?_⟩
    simp [Heard, Run.note, Ending.announced, Run.fullResult, heard]
  | stalled =>
    simp only [Run.advance, Run.visit?, phase, Option.toList, List.append_nil]
    exact ⟨same, by simp [phase, Heard]⟩
  | ended ending =>
    simp only [Run.advance, Run.visit?, phase, Option.toList, List.append_nil]
    exact ⟨same, heard⟩

end Narrating

theorem Engine.narrating (engine : Engine φ) (recording : engine.bus = some .recording)
    (graph : TaskGraph φ) (input : Value) (context : Context) (turns : Nat) :
    Narrating engine graph (engine.visits turns graph input context)
      (engine.run turns graph input context) := by
  induction turns with
  | zero => exact ⟨rfl, rfl, rfl, rfl⟩
  | succ turns ih =>
    rw [engine.visits_succ, engine.run_succ]
    exact ih.advance recording

namespace Journey

variable {engine : Engine φ} {graph : TaskGraph φ} {input : Value} {context : Context}
  {visits : List (Visit φ)} {history : List Transition} {visit : Visit φ}

theorem settled (journey : Journey engine graph input context visits history visit) :
    ∀ made ∈ visits, ∃ outcome, made.conclusion engine = .settled outcome := by
  induction journey with
  | entry start => simp
  | onward earlier settled selects onward found ih =>
    intro made member
    rcases List.mem_append.mp member with before | last
    · exact ih made before
    · obtain rfl := List.mem_singleton.mp last
      exact ⟨_, settled⟩

end Journey

namespace Concludes

variable {engine : Engine φ} {graph : TaskGraph φ} {input : Value} {context : Context}
  {visits : List (Visit φ)} {ending : Ending φ}

theorem settled_or_escaped (concludes : Concludes engine graph input context visits ending) :
    ∀ visit ∈ visits, (∃ outcome, visit.conclusion engine = .settled outcome) ∨
      ∃ earlier fault, visits = earlier ++ [visit] ∧
        visit.conclusion engine = .escaped fault ∧ ending = .raised (.bare fault) := by
  intro visit member
  cases concludes with
  | empty empty => cases member
  | arrived journey settled selects last | dangling journey settled selects onward missing
  | refused journey settled refuses =>
    rcases List.mem_append.mp member with before | last
    · exact .inl (journey.settled visit before)
    · obtain rfl := List.mem_singleton.mp last
      exact .inl ⟨_, settled⟩
  | escaped journey escaped =>
    rcases List.mem_append.mp member with before | last
    · exact .inl (journey.settled visit before)
    · obtain rfl := List.mem_singleton.mp last
      exact .inr ⟨_, _, rfl, escaped, rfl⟩

theorem visited_eq {result : RunResult}
    (concludes : Concludes engine graph input context visits ending)
    (reported : ending.result? = some result) :
    result.visited = visits.map fun visit => visit.task.name := by
  rcases concludes.result_cases reported with
    ⟨rfl, _, rfl⟩ | ⟨earlier, history, visit, rfl, journey, reported⟩
  · rfl
  · rcases reported with ⟨output, rfl⟩ | ⟨outcome, edge, _, _, last, rfl⟩
    · exact journey.visited_eq
    · simp [RunResult.visited, List.filterMap_append, journey.visited_eq, last]

theorem of_empty (concludes : Concludes engine graph input context visits ending)
    (empty : graph.tasks = []) :
    visits = [] ∧ ∃ failure, ending = .raised failure ∧ failure.fault = .startTaskNotFound := by
  have nowhere : ∀ {visits history visit},
      ¬ Journey engine graph input context visits history visit := by
    intro visits history visit journey
    obtain ⟨task, start, _⟩ := journey.head
    rw [TaskGraph.startTask?_eq_none.mpr empty] at start
    cases start
  cases concludes with
  | empty _ => exact ⟨rfl, _, rfl, rfl⟩
  | arrived journey _ _ _ => exact absurd journey nowhere
  | dangling journey _ _ _ _ => exact absurd journey nowhere
  | refused journey _ _ => exact absurd journey nowhere
  | escaped journey _ => exact absurd journey nowhere

end Concludes

structure Protocol (engine : Engine φ) (graph : TaskGraph φ) (visits : List (Visit φ))
    (ending : Ending φ) (events : List Event) : Prop where
  nowhere : graph.tasks = [] → visits = [] ∧ ∃ failure, ending = .raised failure ∧
    failure.fault = .startTaskNotFound ∧
    events = [.workflowFailed failure.fault.message failure.fault.className none]
  begun : ∀ start, graph.startTask? = some start →
    events = .workflowStarted start.name ::
      (visits.flatMap fun visit => visit.announced engine) ++ ending.announced visits
  completed : ∀ output, .workflowCompleted output ∈ events ↔
    ∃ result, ending = .returned result ∧ output = result.output
  failed : ∀ message className step, .workflowFailed message className step ∈ events ↔
    ∃ failure, ending = .raised failure ∧ failure.fault.kind.isExecution = true ∧
      message = failure.fault.message ∧ className = failure.fault.className ∧
      step = visits.getLast?.map fun visit => visit.task.name
  terminal : ∀ earlier event later, events = earlier ++ event :: later →
    event.isTerminal = true → later = [] ∧ ∀ other ∈ earlier, other.isTerminal = false
  settles : ∀ visit ∈ visits, (∃ outcome, visit.conclusion engine = .settled outcome) ∨
    ∃ fault, (visit.behaviour engine).settlement = .raised fault ∧ fault.kind.isAbort
  ends : (∃ result, ending = .returned result) ∨
    (∃ failure, ending = .raised failure ∧ failure.fault.kind.isExecution = true) ∨
    ∃ visit fault, visits.getLast? = some visit ∧
      (visit.behaviour engine).settlement = .raised fault ∧ fault.kind.isAbort
  aborted : ∀ visit ∈ visits, ∀ fault, (visit.behaviour engine).settlement = .raised fault →
    fault.kind.isAbort → ending = .raised (.bare fault) ∧
      events.getLast? = some (.stepStarted visit.task.name) ∧
      ∀ event ∈ events, event.isTerminal = false
  started : ∀ result, ending.result? = some result →
    events.filterMap Event.started? = result.visited
  last : ∀ result, ending.result? = some result →
    result.lastVisited? = visits.getLast?.map fun visit => visit.task.name
  stepFailed : ∀ name message, .stepFailed name message ∈ events ↔
    ∃ visit ∈ visits, ∃ error, visit.conclusion engine = .settled (.failure error) ∧
      name = visit.task.name ∧ message = error.plain

namespace Concludes

variable {engine : Engine φ} {graph : TaskGraph φ} {input : Value} {context : Context}
  {visits : List (Visit φ)} {ending : Ending φ} {events : List Event}

theorem ways (concludes : Concludes engine graph input context visits ending) :
    (∃ result, ending = .returned result) ∨
    (∃ failure, ending = .raised failure ∧ failure.fault.kind.isExecution = true) ∨
    ∃ visit fault, visits.getLast? = some visit ∧
      (visit.behaviour engine).settlement = .raised fault ∧ fault.kind.isAbort := by
  cases concludes with
  | empty empty => exact .inr (.inl ⟨_, rfl, rfl⟩)
  | arrived journey settled selects last => exact .inl ⟨_, rfl⟩
  | dangling journey settled selects onward missing => exact .inr (.inl ⟨_, rfl, rfl⟩)
  | refused journey settled refuses => exact .inr (.inl ⟨_, rfl, refuses.isExecution⟩)
  | escaped journey escaped =>
    obtain ⟨raised, kind⟩ := Settlement.escaped_iff.mp escaped
    exact .inr (.inr ⟨_, _, List.getLast?_concat .., raised, kind⟩)

theorem aborted (concludes : Concludes engine graph input context visits ending)
    (heard : events = engine.narration graph visits ++ ending.announced visits)
    {visit : Visit φ} (member : visit ∈ visits) {fault : Fault}
    (raised : (visit.behaviour engine).settlement = .raised fault) (kind : fault.kind.isAbort) :
    ending = .raised (.bare fault) ∧ events.getLast? = some (.stepStarted visit.task.name) ∧
      ∀ event ∈ events, event.isTerminal = false := by
  have escaped : visit.conclusion engine = .escaped fault := Settlement.escaped_iff.mpr ⟨raised, kind⟩
  rcases concludes.settled_or_escaped visit member with
    ⟨outcome, settled⟩ | ⟨earlier, other, rfl, same, ended⟩
  · rw [escaped] at settled
    cases settled
  · rw [escaped] at same
    cases same
    have silent : ending.announced (earlier ++ [visit]) = [] := by
      simp [ended, Ending.announced, Raised.bare, FaultKind.isExecution_of_isAbort kind]
    rw [silent, List.append_nil] at heard
    subst heard
    refine ⟨ended, ?_, Engine.narration_not_terminal⟩
    simp [Engine.narration_concat, Visit.announced_of_escaped escaped]

/-- A terminal event is the last one: nothing is narrated after it, and a run ends once. -/
theorem terminal_last (heard : events = engine.narration graph visits ++ ending.announced visits)
    {earlier later : List Event} {event : Event} (split : events = earlier ++ event :: later)
    (terminal : event.isTerminal = true) :
    later = [] ∧ ∀ other ∈ earlier, other.isTerminal = false := by
  have single : (ending.announced visits).length ≤ 1 := by
    cases ending with
    | returned result => simp [Ending.announced]
    | raised failure =>
      simp only [Ending.announced]
      split <;> simp
  rw [heard] at split
  rcases List.append_eq_append_iff.mp split with ⟨middle, before, after⟩ | ⟨middle, before, after⟩
  · -- The split lies in what announces the end, which is one event.
    have length := congrArg List.length after
    rw [List.length_append, List.length_cons] at length
    obtain rfl : middle = [] := List.eq_nil_of_length_eq_zero (by omega)
    obtain rfl : later = [] := List.eq_nil_of_length_eq_zero (by omega)
    rw [before, List.append_nil]
    exact ⟨rfl, Engine.narration_not_terminal⟩
  · -- Otherwise the event would have to be narrated.
    cases middle with
    | nil =>
      have length := congrArg List.length after
      simp only [List.nil_append, List.length_cons] at length
      obtain rfl : later = [] := List.eq_nil_of_length_eq_zero (by omega)
      rw [List.append_nil] at before
      exact ⟨rfl, before ▸ Engine.narration_not_terminal⟩
    | cons first rest =>
      obtain rfl : event = first := by simpa using congrArg List.head? after
      have narrated : event ∈ engine.narration graph visits := by simp [before]
      exact absurd terminal (by simp [Engine.narration_not_terminal event narrated])

theorem completed_iff (heard : events = engine.narration graph visits ++ ending.announced visits)
    (output : Value) :
    .workflowCompleted output ∈ events ↔
      ∃ result, ending = .returned result ∧ output = result.output := by
  subst heard
  rw [List.mem_append]
  constructor
  · rintro (narrated | announced)
    · exact absurd (Engine.narration_not_terminal _ narrated) (by simp [Event.isTerminal])
    · cases ending with
      | returned result => exact ⟨result, rfl, by simpa [Ending.announced] using announced⟩
      | raised failure =>
        simp only [Ending.announced] at announced
        split at announced <;> simp at announced
  · rintro ⟨result, rfl, rfl⟩
    exact .inr (List.mem_singleton.mpr rfl)

theorem failed_iff (heard : events = engine.narration graph visits ++ ending.announced visits)
    (message className : String) (step : Option String) :
    .workflowFailed message className step ∈ events ↔
      ∃ failure, ending = .raised failure ∧ failure.fault.kind.isExecution = true ∧
        message = failure.fault.message ∧ className = failure.fault.className ∧
        step = visits.getLast?.map fun visit => visit.task.name := by
  subst heard
  rw [List.mem_append]
  constructor
  · rintro (narrated | announced)
    · exact absurd (Engine.narration_not_terminal _ narrated) (by simp [Event.isTerminal])
    · cases ending with
      | returned result => simp [Ending.announced] at announced
      | raised failure =>
        simp only [Ending.announced] at announced
        split at announced
        · rename_i execution
          exact ⟨failure, rfl, execution, by simpa using announced⟩
        · cases announced
  · rintro ⟨failure, rfl, execution, rfl, rfl, rfl⟩
    exact .inr (by simp [Ending.announced, execution])

theorem stepFailed_iff
    (heard : events = engine.narration graph visits ++ ending.announced visits)
    (name message : String) :
    .stepFailed name message ∈ events ↔
      ∃ visit ∈ visits, ∃ error, visit.conclusion engine = .settled (.failure error) ∧
        name = visit.task.name ∧ message = error.plain := by
  subst heard
  rw [List.mem_append, Engine.narration, List.mem_append, List.mem_flatMap]
  constructor
  · rintro ((opening | ⟨visit, member, announced⟩) | announced)
    · obtain ⟨start, _, other⟩ := Option.map_eq_some_iff.mp (Option.mem_toList.mp opening)
      cases other
    · exact ⟨visit, member, Visit.stepFailed_mem_announced.mp announced⟩
    · cases ending.announced_terminal visits _ announced
  · rintro ⟨visit, member, failed⟩
    exact .inl (.inr ⟨visit, member, Visit.stepFailed_mem_announced.mpr failed⟩)

theorem started_eq (heard : events = engine.narration graph visits ++ ending.announced visits) :
    events.filterMap Event.started? = visits.map fun visit => visit.task.name := by
  have opening : ((graph.startTask?.map fun start =>
      Event.workflowStarted start.name).toList).filterMap Event.started? = [] := by
    cases graph.startTask? <;> rfl
  have closing : (ending.announced visits).filterMap Event.started? = [] := by
    rw [List.filterMap_eq_nil_iff]
    intro event member
    have terminal := ending.announced_terminal visits event member
    cases event with
    | workflowFailed | workflowCompleted => rfl
    | _ => cases terminal
  have narrated : (visits.flatMap fun visit => visit.announced engine).filterMap Event.started? =
      visits.map fun visit => visit.task.name := by
    simp only [List.filterMap_flatMap, Visit.announced_started]
    exact List.map_eq_flatMap.symm
  rw [heard, Engine.narration]
  simp only [List.filterMap_append, opening, closing, narrated, List.nil_append, List.append_nil]

theorem protocol (concludes : Concludes engine graph input context visits ending)
    (heard : events = engine.narration graph visits ++ ending.announced visits) :
    Protocol engine graph visits ending events where
  nowhere := by
    intro empty
    obtain ⟨rfl, failure, rfl, fault⟩ := concludes.of_empty empty
    refine ⟨rfl, failure, rfl, fault, ?_⟩
    have missing := TaskGraph.startTask?_eq_none.mpr empty
    simp [heard, Engine.narration, missing, Ending.announced, fault, Fault.startTaskNotFound,
      FaultKind.isExecution, FaultKind.isStructural]
  begun := by
    intro start selected
    rw [heard, Engine.narration_of_start selected]
  completed := completed_iff heard
  failed := failed_iff heard
  terminal := fun _ _ _ => terminal_last heard
  settles := by
    intro visit member
    rcases concludes.settled_or_escaped visit member with settled | ⟨_, fault, _, escaped, _⟩
    · exact .inl settled
    · exact .inr ⟨fault, Settlement.escaped_iff.mp escaped⟩
  ends := concludes.ways
  aborted := fun _ member _ => concludes.aborted heard member
  started := by
    intro result reported
    rw [started_eq heard, concludes.visited_eq reported]
  last := by
    intro result reported
    rw [RunResult.lastVisited?, concludes.visited_eq reported, List.getLast?_map]
  stepFailed := stepFailed_iff heard

end Concludes

/-- Every run that ends has announced its start, each of its calls in order, and last the way it
ended, unless an abort escaped from its last call. -/
theorem events_follow_the_protocol (engine : Engine φ) (graph : TaskGraph φ) (input : Value)
    (context : Context) (turns : Nat) (ending : Ending φ)
    (recording : engine.bus = some .recording)
    (ended : (engine.run turns graph input context).ending? = some ending) :
    Protocol engine graph (engine.visits turns graph input context) ending
      (engine.run turns graph input context).events := by
  have unhindered : engine.Unhindered := by
    intro kind
    simp [Engine.refusal?, recording, Bus.recording]
  have concludes := Engine.concludes_of_unhindered unhindered ended
  have heard := (engine.narrating recording graph input context turns).heard
  unfold Run.ending? at ended
  split at ended
  · rename_i reached phase
    cases ended
    rw [phase] at heard
    exact concludes.protocol heard
  · cases ended

theorem retry_events_follow_the_protocol :
    Retry.engine.bus = some .recording ∧
      (Retry.engine.run 14 Retry.graph .null (Retry.reply "lost")).ending? =
        some (.raised Retry.lost) ∧
      Protocol Retry.engine Retry.graph
        (Retry.engine.visits 14 Retry.graph .null (Retry.reply "lost")) (.raised Retry.lost)
        (Retry.engine.run 14 Retry.graph .null (Retry.reply "lost")).events :=
  ⟨rfl, rfl, events_follow_the_protocol Retry.engine Retry.graph .null (Retry.reply "lost") 14
    (.raised Retry.lost) rfl rfl⟩

end Flowtrace
