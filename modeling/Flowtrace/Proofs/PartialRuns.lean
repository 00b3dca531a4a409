import Flowtrace.Proofs.Turns

/-! What a failed run leaves behind. The fault says why the last task could not be left, and the
result attached to it is that of a run that stopped just there: nothing is recorded of the move
that failed, and the offending value is what the last task produced. -/

namespace Flowtrace

variable {φ : Type}

/-- The fault of a failed run, whether it answers another fault, and the value it failed over. -/
inductive FailsOver (engine : Engine φ) (graph : TaskGraph φ) (input : Value)
    (visits : List (Visit φ)) : Fault → Bool → Value → Prop where
  | nowhere (empty : graph.tasks = []) (uncalled : visits = []) :
      FailsOver engine graph input visits .startTaskNotFound false input
  | dangling {visit outcome edge target} (last : visits.getLast? = some visit)
      (settled : visit.conclusion engine = .settled outcome)
      (selects : visit.task.Selects outcome edge) (onward : edge.target = some target)
      (missing : graph.contains target = false) :
      FailsOver engine graph input visits (.taskNotFound target) false
        (outcome.produced edge.label)
  | unmapped {visit branches value} (last : visits.getLast? = some visit)
      (settled : visit.conclusion engine = .settled (.success value))
      (routing : visit.task.routing = .choice branches)
      (unmapped : value.plain ∉ branches.keys) :
      FailsOver engine graph input visits (.unmappedChoice visit.task.name value.plain) false
        value
  | missed {visit error} (last : visits.getLast? = some visit)
      (settled : visit.conclusion engine = .settled (.failure error))
      (missed : visit.task.Misses error) :
      FailsOver engine graph input visits
        (.stepExecution visit.task.name error (some visit.task.unhandledReason))
        error.toFault?.isSome error

theorem FailsOver.empty_of_start {engine : Engine φ} {graph : TaskGraph φ} {input : Value}
    {visits : List (Visit φ)} {fault : Fault} {chained : Bool} {output : Value}
    (failsOver : FailsOver engine graph input visits fault chained output)
    (kind : fault.kind = .startTaskNotFound) : graph.tasks = [] := by
  cases failsOver with
  | nowhere empty uncalled => exact empty
  | dangling => cases kind
  | unmapped => cases kind
  | missed => cases kind

theorem FailsOver.missing_of_target {engine : Engine φ} {graph : TaskGraph φ} {input : Value}
    {visits : List (Visit φ)} {fault : Fault} {chained : Bool} {output : Value} {target : String}
    (failsOver : FailsOver engine graph input visits fault chained output)
    (kind : fault.kind = .taskNotFound target) : graph.contains target = false := by
  cases failsOver with
  | nowhere => cases kind
  | dangling last settled selects onward missing =>
    cases kind
    exact missing
  | unmapped => cases kind
  | missed => cases kind

structure CarriesRun (engine : Engine φ) (graph : TaskGraph φ) (input : Value)
    (context : Context) (visits : List (Visit φ)) (failure : Raised φ) (result : RunResult) :
    Prop where
  executed : failure.graph = some graph
  attached : failure.result = some result
  unsuccessful : result.success = false
  visited : result.visited = visits.map fun visit => visit.task.name
  enters : ∀ transition ∈ result.transitions, transition.destination ≠ none
  left : result.context = (visits.getLast?.map fun visit => visit.left engine).getD context
  failsOver : FailsOver engine graph input visits failure.fault failure.chained result.output

theorem Journey.visited_eq {engine : Engine φ} {graph : TaskGraph φ} {input : Value}
    {context : Context} {visits : List (Visit φ)} {history : List Transition} {visit : Visit φ}
    (journey : Journey engine graph input context visits history visit) :
    history.filterMap (·.destination) = (visits ++ [visit]).map fun visit => visit.task.name := by
  have names := congrArg (List.filterMap Prod.fst) journey.entered
  simpa [List.filterMap_map, Function.comp_def, List.filterMap_eq_map'] using names

theorem Journey.enters {engine : Engine φ} {graph : TaskGraph φ} {input : Value}
    {context : Context} {visits : List (Visit φ)} {history : List Transition} {visit : Visit φ}
    (journey : Journey engine graph input context visits history visit) :
    ∀ transition ∈ history, transition.destination ≠ none := by
  intro transition member
  obtain ⟨position, found⟩ := List.mem_iff_getElem?.mp member
  obtain ⟨made, _, destination, _⟩ := journey.entered_at found
  simp [destination]

theorem Journey.carriesRun {engine : Engine φ} {graph : TaskGraph φ} {input : Value}
    {context : Context} {visits : List (Visit φ)} {history : List Transition} {visit : Visit φ}
    (journey : Journey engine graph input context visits history visit) {fault : Fault}
    {chained : Bool} {output : Value}
    (failsOver : FailsOver engine graph input (visits ++ [visit]) fault chained output) :
    CarriesRun engine graph input context (visits ++ [visit])
      ⟨fault, chained, some ⟨false, history, output, visit.left engine⟩, some graph⟩
      ⟨false, history, output, visit.left engine⟩ where
  executed := rfl
  attached := rfl
  unsuccessful := rfl
  visited := journey.visited_eq
  enters := journey.enters
  left := by simp
  failsOver := failsOver

theorem Concludes.carriesRun {engine : Engine φ} {graph : TaskGraph φ} {input : Value}
    {context : Context} {visits : List (Visit φ)} {failure : Raised φ}
    (concludes : Concludes engine graph input context visits (.raised failure))
    (own : failure.fault.kind.isOwn = true) :
    ∃ result, CarriesRun engine graph input context visits failure result := by
  cases concludes with
  | empty empty =>
    exact ⟨_, rfl, rfl, rfl, rfl, by simp, rfl, .nowhere empty rfl⟩
  | @dangling _ _ _ _ _ target journey settled selects onward missing =>
    have absent : graph.contains target = false := by simp [TaskGraph.contains, missing]
    exact ⟨_, journey.carriesRun (.dangling (by simp) settled selects onward absent)⟩
  | refused journey settled refuses =>
    cases refuses with
    | unmapped routing unmapped =>
      exact ⟨_, journey.carriesRun (.unmapped (by simp) settled routing unmapped)⟩
    | missed missed => exact ⟨_, journey.carriesRun (.missed (by simp) settled missed)⟩
  | escaped journey escaped =>
    have abort := Settlement.kind_of_escaped escaped
    exact absurd own (by simp [Raised.bare, FaultKind.isOwn_of_isAbort abort])

theorem Engine.ended_of_empty {engine : Engine φ} {graph : TaskGraph φ} {input : Value}
    {context : Context} (told : engine.refusal? .workflowFailed = none)
    (empty : graph.tasks = []) :
    ∃ failure, (engine.run 2 graph input context).ending? = some (.raised failure) ∧
      failure.fault = .startTaskNotFound := by
  have missing := TaskGraph.startTask?_eq_none.mpr empty
  have phase : (engine.run 1 graph input context).phase =
      .failing ⟨.startTaskNotFound, false, some ⟨false, [], input, context⟩, some graph⟩ := by
    rw [engine.run_succ]
    simp only [Engine.run, Run.advanceBy, Run.advance, Run.start, missing, Run.failWith,
      Run.partialResult]
  have ended := Run.advance_of_failing phase told
  rw [← engine.run_succ] at ended
  exact ⟨_, ended, rfl⟩

/-- What a run reports holds its trace: nothing is recorded once a run has failed or ended. -/
def Run.TellsTrace (run : Run φ) : Prop :=
  match run.phase with
  | .failing error => ∀ result, error.result = some result → result.transitions = run.transitions
  | .ended ending => ∀ result, ending.result? = some result → result.transitions = run.transitions
  | _ => True

section TellsTrace

variable {engine : Engine φ} {run : Run φ}

theorem Run.TellsTrace.interrupt (run : Run φ) (fault : Fault) :
    (run.interrupt fault).TellsTrace := by
  unfold Run.interrupt
  split
  · rintro result ⟨⟩
  · rintro result ⟨⟩
  · split
    · rintro result ⟨⟩
    · rintro result ⟨⟩

theorem Run.TellsTrace.announce {event : Event} {next : Run φ → Run φ}
    (taken : ∀ events, (next { run with events }).TellsTrace) :
    (run.announce engine event next).TellsTrace := by
  rw [announce_eq]
  split
  · exact taken _
  · exact Run.TellsTrace.interrupt _ _

theorem Run.TellsTrace.failWith (run : Run φ) (fault : Fault) (output : Value) (chained : Bool) :
    (run.failWith fault output chained).TellsTrace := by
  rintro result ⟨⟩
  rfl

theorem Run.TellsTrace.take (run : Run φ) (task : Task φ) (move : Move) :
    (run.take task move).TellsTrace := by
  cases move with
  | follow edge target produced carried =>
    simp only [Run.take]
    split
    · exact trivial
    · exact Run.TellsTrace.failWith _ _ _ _
  | leave edge output => exact trivial
  | refuse fault output chained => exact Run.TellsTrace.failWith _ _ _ _

theorem Run.TellsTrace.advance (tells : run.TellsTrace) (engine : Engine φ) :
    (run.advance engine).TellsTrace := by
  unfold Run.advance
  cases phase : run.phase with
  | starting =>
    simp only
    split
    · exact Run.TellsTrace.failWith _ _ _ _
    · exact Run.TellsTrace.announce fun _ => trivial
  | entering task => exact Run.TellsTrace.announce fun _ => trivial
  | calling task =>
    simp only [Run.call]
    split
    · exact trivial
    · rintro result ⟨⟩
    · exact trivial
  | reporting task outcome =>
    exact Run.TellsTrace.announce fun _ => Run.TellsTrace.take _ task _
  | failing error =>
    rw [Run.TellsTrace, phase] at tells
    exact Run.TellsTrace.announce fun _ => tells
  | completing =>
    refine Run.TellsTrace.announce fun _ => ?_
    rintro result ⟨⟩
    rfl
  | stalled => exact tells
  | ended ending => exact tells

end TellsTrace

theorem Engine.transitions_of_reported {engine : Engine φ} {graph : TaskGraph φ} {input : Value}
    {context : Context} {turns : Nat} {ending : Ending φ} {result : RunResult}
    (ended : (engine.run turns graph input context).ending? = some ending)
    (reported : ending.result? = some result) :
    result.transitions = (engine.run turns graph input context).transitions := by
  have tells : (engine.run turns graph input context).TellsTrace := by
    clear ended
    induction turns with
    | zero => exact trivial
    | succ turns ih =>
      rw [engine.run_succ]
      exact ih.advance engine
  rw [Run.TellsTrace, Run.phase_of_ended ended] at tells
  exact tells result reported

/-- Every fault that a run raises itself carries the graph and the run up to the failure, and says
why the last task could not be left. A run lacks a task to start from exactly if its graph is
empty. -/
theorem errors_carry_the_partial_run (engine : Engine φ) (graph : TaskGraph φ) (input : Value)
    (context : Context) (unhindered : engine.Unhindered) :
    (∀ turns failure, (engine.run turns graph input context).ending? = some (.raised failure) →
      failure.fault.kind.isOwn = true →
      ∃ result, CarriesRun engine graph input context
        (engine.visits turns graph input context) failure result) ∧
    ((∃ turns failure, (engine.run turns graph input context).ending? = some (.raised failure) ∧
      failure.fault.kind = .startTaskNotFound) ↔ graph.tasks = []) := by
  have carries : ∀ turns failure,
      (engine.run turns graph input context).ending? = some (.raised failure) →
      failure.fault.kind.isOwn = true →
      ∃ result, CarriesRun engine graph input context
        (engine.visits turns graph input context) failure result := by
    intro turns failure ended own
    exact (Engine.concludes_of_unhindered unhindered ended).carriesRun own
  refine ⟨carries, ?_, ?_⟩
  · rintro ⟨turns, failure, ended, kind⟩
    obtain ⟨result, carried⟩ := carries turns failure ended (by rw [kind]; rfl)
    exact carried.failsOver.empty_of_start kind
  · intro empty
    obtain ⟨failure, ended, fault⟩ := Engine.ended_of_empty (unhindered _) empty
    exact ⟨2, failure, ended, by rw [fault]; rfl⟩

def Retry.lost : Raised Step where
  fault := .taskNotFound "search"
  chained := false
  result := some
    { success := false
      transitions :=
        [.entry "fetch" .null,
          .move "fetch" "*Timeout*" "recover" (.caught "*Timeout*" Fault.timeout.toValue),
          .move "recover" "then" "fetch" (.text "lost"),
          .move "fetch" "then" "check" (.text "lost")]
      output := .text "lost"
      context := [(.text "reply", .text "lost"), (.text "recovered", .bool true)] }
  graph := some Retry.graph

theorem retry_error_carries_the_partial_run :
    Retry.engine.Unhindered ∧
      (Retry.engine.run 14 Retry.graph .null (Retry.reply "lost")).ending? =
        some (.raised Retry.lost) ∧
      ∃ result, CarriesRun Retry.engine Retry.graph .null (Retry.reply "lost")
        (Retry.engine.visits 14 Retry.graph .null (Retry.reply "lost")) Retry.lost result :=
  ⟨Retry.unhindered, rfl, (errors_carry_the_partial_run Retry.engine Retry.graph .null
    (Retry.reply "lost") Retry.unhindered).1 14 Retry.lost rfl rfl⟩

end Flowtrace
