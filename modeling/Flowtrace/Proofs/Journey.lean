import Flowtrace.Proofs.Routing
import Flowtrace.Run

/-! Journeys: the calls that a run makes one after the other, each determined by the call before
it. A journey knows nothing of turns, events or notes. It says what a run must do, so that every
property of traces, payloads, contexts and endings is proved of journeys. -/

namespace Flowtrace

variable {φ : Type}

/-- One call of a step: the task that is executed and what its step is called with. -/
structure Visit (φ : Type) where
  task : Task φ
  payload : Value
  context : Context

namespace Visit

def behaviour (visit : Visit φ) (engine : Engine φ) : Behaviour :=
  (engine.steps visit.task.step).perform engine.deadline visit.payload visit.context

def conclusion (visit : Visit φ) (engine : Engine φ) : Conclusion :=
  (visit.behaviour engine).settlement.conclusion

def left (visit : Visit φ) (engine : Engine φ) : Context := (visit.behaviour engine).context

def carried (visit : Visit φ) (outcome : Outcome) (edge : Edge) : Value :=
  visit.task.handedOn visit.payload (outcome.produced edge.label)

def departure (visit : Visit φ) (outcome : Outcome) (edge : Edge) : Transition :=
  match edge.target with
  | some target => .move visit.task.name edge.label target (visit.carried outcome edge)
  | none => .exit visit.task.name edge.label (outcome.produced edge.label)

end Visit

/-- The calls made so far, the trace that they left, and the call that comes next. -/
inductive Journey (engine : Engine φ) (graph : TaskGraph φ) (input : Value) (context : Context) :
    List (Visit φ) → List Transition → Visit φ → Prop where
  | entry {task} (start : graph.startTask? = some task) :
      Journey engine graph input context [] [.entry task.name input] ⟨task, input, context⟩
  | onward {visits history visit outcome edge target next}
      (earlier : Journey engine graph input context visits history visit)
      (settled : visit.conclusion engine = .settled outcome)
      (selects : visit.task.Selects outcome edge)
      (onward : edge.target = some target) (found : graph.get? target = some next) :
      Journey engine graph input context (visits ++ [visit])
        (history ++ [visit.departure outcome edge])
        ⟨next, visit.carried outcome edge, visit.left engine⟩

/-- How a run ends after the given calls, unless its bus cuts it short. -/
inductive Concludes (engine : Engine φ) (graph : TaskGraph φ) (input : Value)
    (context : Context) : List (Visit φ) → Ending φ → Prop where
  | empty (empty : graph.tasks = []) :
      Concludes engine graph input context []
        (.raised ⟨.startTaskNotFound, false, some ⟨false, [], input, context⟩, some graph⟩)
  | arrived {visits history visit outcome edge}
      (journey : Journey engine graph input context visits history visit)
      (settled : visit.conclusion engine = .settled outcome)
      (selects : visit.task.Selects outcome edge) (last : edge.target = none) :
      Concludes engine graph input context (visits ++ [visit])
        (.returned ⟨true, history ++ [visit.departure outcome edge], outcome.produced edge.label,
          visit.left engine⟩)
  | dangling {visits history visit outcome edge target}
      (journey : Journey engine graph input context visits history visit)
      (settled : visit.conclusion engine = .settled outcome)
      (selects : visit.task.Selects outcome edge)
      (onward : edge.target = some target) (missing : graph.get? target = none) :
      Concludes engine graph input context (visits ++ [visit])
        (.raised ⟨.taskNotFound target, false,
          some ⟨false, history, outcome.produced edge.label, visit.left engine⟩, some graph⟩)
  | refused {visits history visit outcome fault output chained}
      (journey : Journey engine graph input context visits history visit)
      (settled : visit.conclusion engine = .settled outcome)
      (refuses : visit.task.Refuses outcome fault output chained) :
      Concludes engine graph input context (visits ++ [visit])
        (.raised ⟨fault, chained, some ⟨false, history, output, visit.left engine⟩, some graph⟩)
  | escaped {visits history visit fault}
      (journey : Journey engine graph input context visits history visit)
      (escaped : visit.conclusion engine = .escaped fault) :
      Concludes engine graph input context (visits ++ [visit]) (.raised (.bare fault))

def FaultKind.isOwn : FaultKind → Bool
  | .startTaskNotFound | .taskNotFound _ | .unmappedChoice .. | .stepExecution .. => true
  | _ => false

theorem FaultKind.isAbort_iff {kind : FaultKind} : kind.isAbort ↔ kind.root = .abort := by
  simp [isAbort]

theorem FaultKind.isOwn_of_isAbort {kind : FaultKind} (abort : kind.isAbort) :
    kind.isOwn = false := by
  cases kind <;> first | rfl | simp [isAbort] at abort

theorem FaultKind.isExecution_of_isAbort {kind : FaultKind} (abort : kind.isAbort) :
    kind.isExecution = false := by
  simp [isExecution, isStructural, isAbort_iff.mp abort]

def Ending.isOwn : Ending φ → Bool
  | .returned _ => true
  | .raised error => error.fault.kind.isOwn

def Ending.result? : Ending φ → Option RunResult
  | .returned result => some result
  | .raised error => error.result

namespace Visit

@[simp] theorem departure_source (visit : Visit φ) (outcome : Outcome) (edge : Edge) :
    (visit.departure outcome edge).source = some visit.task.name := by
  unfold departure
  split <;> rfl

@[simp] theorem departure_destination (visit : Visit φ) (outcome : Outcome) (edge : Edge) :
    (visit.departure outcome edge).destination = edge.target := by
  unfold departure
  split <;> simp_all [Transition.move, Transition.exit]

@[simp] theorem departure_edge (visit : Visit φ) (outcome : Outcome) (edge : Edge) :
    (visit.departure outcome edge).edge = some edge.label := by
  unfold departure
  split <;> rfl

theorem departure_label (visit : Visit φ) (outcome : Outcome) (edge : Edge) :
    (visit.departure outcome edge).label = if edge.target.isSome then edge.label else endLabel := by
  unfold departure
  split <;> simp_all [Transition.move, Transition.exit]

theorem departure_payload_of_target {visit : Visit φ} {outcome : Outcome} {edge : Edge}
    {target : String} (onward : edge.target = some target) :
    (visit.departure outcome edge).payload = visit.carried outcome edge := by
  simp [departure, onward, Transition.move]

theorem departure_payload_of_end {visit : Visit φ} {outcome : Outcome} {edge : Edge}
    (last : edge.target = none) :
    (visit.departure outcome edge).payload = outcome.produced edge.label := by
  simp [departure, last, Transition.exit]

end Visit

/-- One call leads to the next along an edge, with what the first one left and carried. -/
structure Visit.LeadsTo (engine : Engine φ) (prior : Visit φ) (outcome : Outcome) (edge : Edge)
    (next : Visit φ) : Prop where
  settled : prior.conclusion engine = .settled outcome
  selects : prior.task.Selects outcome edge
  target : edge.target = some next.task.name
  payload : next.payload = prior.carried outcome edge
  context : next.context = prior.left engine

theorem getElem?_of_prefix {α : Type} {first longer : List α} (begins : first <+: longer)
    {position : Nat} {item : α} (found : first[position]? = some item) :
    longer[position]? = some item := by
  obtain ⟨inside, rfl⟩ := List.getElem?_eq_some_iff.mp found
  exact List.prefix_iff_getElem?.mp begins position inside

theorem getElem?_concat_cases {α : Type} {items : List α} {last item : α} {position : Nat}
    (found : (items ++ [last])[position]? = some item) :
    items[position]? = some item ∨ position = items.length ∧ item = last := by
  rcases Nat.lt_or_ge position items.length with inside | outside
  · exact .inl (by rwa [List.getElem?_append_left inside] at found)
  · rw [List.getElem?_append_right outside] at found
    have bound := (List.getElem?_eq_some_iff.mp found).1
    rw [List.length_singleton] at bound
    obtain rfl : position = items.length := by omega
    exact .inr ⟨rfl, by simpa using found.symm⟩

namespace Journey

variable {engine : Engine φ} {graph : TaskGraph φ} {input : Value} {context : Context}
  {visits : List (Visit φ)} {history : List Transition} {visit : Visit φ}

theorem visited_task (journey : Journey engine graph input context visits history visit) :
    ∀ made ∈ visits ++ [visit], graph.get? made.task.name = some made.task := by
  induction journey with
  | entry start =>
    intro made member
    obtain rfl := List.mem_singleton.mp member
    exact TaskGraph.get?_of_mem (TaskGraph.startTask?_mem start)
  | onward earlier settled selects onward found ih =>
    intro made member
    rcases List.mem_append.mp member with before | last
    · exact ih made before
    · obtain rfl := List.mem_singleton.mp last
      exact TaskGraph.get?_of_mem (TaskGraph.mem_of_get? found).1

theorem entered (journey : Journey engine graph input context visits history visit) :
    history.map (fun transition => (transition.destination, transition.payload)) =
      (visits ++ [visit]).map (fun visit => (some visit.task.name, visit.payload)) := by
  induction journey with
  | entry start => simp [Transition.entry]
  | @onward visits history visit outcome edge target next earlier settled selects onward found ih =>
    have name := (TaskGraph.mem_of_get? found).2
    rw [List.map_append, ih]
    simp [onward, name, Visit.departure_payload_of_target onward]

theorem length_history (journey : Journey engine graph input context visits history visit) :
    history.length = visits.length + 1 := by
  simpa using congrArg List.length journey.entered

theorem entered_at (journey : Journey engine graph input context visits history visit)
    {position : Nat} {transition : Transition} (found : history[position]? = some transition) :
    ∃ made, (visits ++ [visit])[position]? = some made ∧
      transition.destination = some made.task.name ∧ transition.payload = made.payload := by
  have entry := congrArg (fun entries => entries[position]?) journey.entered
  simp only [List.getElem?_map, found, Option.map_some] at entry
  obtain ⟨made, called, same⟩ := Option.map_eq_some_iff.mp entry.symm
  simp only [Prod.mk.injEq] at same
  exact ⟨made, called, same.1.symm, same.2.symm⟩

theorem head (journey : Journey engine graph input context visits history visit) :
    ∃ task, graph.startTask? = some task ∧ history[0]? = some (.entry task.name input) ∧
      (visits ++ [visit])[0]? = some ⟨task, input, context⟩ := by
  induction journey with
  | entry start => exact ⟨_, start, rfl, rfl⟩
  | onward earlier settled selects onward found ih =>
    obtain ⟨task, start, first, called⟩ := ih
    exact ⟨task, start, getElem?_of_prefix (List.prefix_append _ _) first,
      getElem?_of_prefix (List.prefix_append _ _) called⟩

/-- Every call but the first is led to by the call before it, and the transition between the two
is that call's departure. -/
theorem leg (journey : Journey engine graph input context visits history visit) {position : Nat}
    {next : Visit φ} (called : (visits ++ [visit])[position + 1]? = some next) :
    ∃ prior outcome edge, (visits ++ [visit])[position]? = some prior ∧
      prior.LeadsTo engine outcome edge next ∧
      history[position + 1]? = some (prior.departure outcome edge) := by
  induction journey generalizing position next with
  | entry start => simp at called
  | @onward visits history visit outcome edge target _ earlier settled selects onward found ih =>
    rcases getElem?_concat_cases called with before | ⟨last, rfl⟩
    · obtain ⟨prior, outcome, edge, before, leads, departed⟩ := ih before
      exact ⟨prior, outcome, edge, getElem?_of_prefix (List.prefix_append _ _) before, leads,
        getElem?_of_prefix (List.prefix_append _ _) departed⟩
    · -- The last call of the journey is the one that the newest transition enters.
      obtain rfl : position = visits.length := by simpa using last
      have name := (TaskGraph.mem_of_get? found).2
      have leads : visit.LeadsTo engine outcome edge ⟨_, visit.carried outcome edge, _⟩ :=
        ⟨settled, selects, onward.trans (congrArg some name.symm), rfl, rfl⟩
      refine ⟨visit, outcome, edge, by simp, leads, ?_⟩
      simp [← earlier.length_history]

end Journey

/-- A run that reports a result had nowhere to start, or it reports the trace of its journey: with
one more transition if it reached the end of the workflow, and as it is if it failed. -/
theorem Concludes.result_cases {engine : Engine φ} {graph : TaskGraph φ} {input : Value}
    {context : Context} {visits : List (Visit φ)} {ending : Ending φ} {result : RunResult}
    (concludes : Concludes engine graph input context visits ending)
    (reported : ending.result? = some result) :
    (visits = [] ∧ graph.tasks = [] ∧ result = ⟨false, [], input, context⟩) ∨
    ∃ earlier history visit, visits = earlier ++ [visit] ∧
      Journey engine graph input context earlier history visit ∧
      ((∃ output, result = ⟨false, history, output, visit.left engine⟩) ∨
        ∃ outcome edge, visit.conclusion engine = .settled outcome ∧
          visit.task.Selects outcome edge ∧ edge.target = none ∧
          result = ⟨true, history ++ [visit.departure outcome edge], outcome.produced edge.label,
            visit.left engine⟩) := by
  cases concludes with
  | empty empty =>
    cases reported
    exact .inl ⟨rfl, empty, rfl⟩
  | arrived journey settled selects last =>
    cases reported
    exact .inr ⟨_, _, _, rfl, journey, .inr ⟨_, _, settled, selects, last, rfl⟩⟩
  | dangling journey settled selects onward missing =>
    cases reported
    exact .inr ⟨_, _, _, rfl, journey, .inl ⟨_, rfl⟩⟩
  | refused journey settled refuses =>
    cases reported
    exact .inr ⟨_, _, _, rfl, journey, .inl ⟨_, rfl⟩⟩
  | escaped journey escaped => cases reported

theorem Concludes.success_iff {engine : Engine φ} {graph : TaskGraph φ} {input : Value}
    {context : Context} {visits : List (Visit φ)} {ending : Ending φ} {result : RunResult}
    (concludes : Concludes engine graph input context visits ending)
    (reported : ending.result? = some result) :
    result.success = true ↔ ending = .returned result := by
  cases concludes with
  | arrived => cases reported; simp
  | empty | dangling | refused => cases reported; simp
  | escaped => cases reported

theorem Settlement.escaped_iff {settlement : Settlement} {fault : Fault} :
    settlement.conclusion = .escaped fault ↔ settlement = .raised fault ∧ fault.kind.isAbort := by
  constructor
  · intro escaped
    unfold conclusion at escaped
    split at escaped <;> try cases escaped
    split at escaped <;> cases escaped
    exact ⟨rfl, ‹_›⟩
  · rintro ⟨rfl, kind⟩
    simp [conclusion, kind]

theorem Settlement.kind_of_escaped {settlement : Settlement} {fault : Fault}
    (escaped : settlement.conclusion = .escaped fault) : fault.kind.isAbort :=
  (Settlement.escaped_iff.mp escaped).2

theorem Concludes.reports {engine : Engine φ} {graph : TaskGraph φ} {input : Value}
    {context : Context} {visits : List (Visit φ)} {ending : Ending φ}
    (concludes : Concludes engine graph input context visits ending) (own : ending.isOwn = true) :
    ∃ result, ending.result? = some result := by
  cases concludes with
  | empty | arrived | dangling | refused => exact ⟨_, rfl⟩
  | escaped journey escaped =>
    have foreign := FaultKind.isOwn_of_isAbort (Settlement.kind_of_escaped escaped)
    exact absurd own (by simp [Ending.isOwn, Raised.bare, foreign])

/-- A run that fails with a fault of a step, of its own making, has missed that step's failure. -/
theorem Concludes.step_failure {engine : Engine φ} {graph : TaskGraph φ} {input : Value}
    {context : Context} {visits : List (Visit φ)} {failure : Raised φ} {name : String}
    {reason : Option String}
    (concludes : Concludes engine graph input context visits (.raised failure))
    (kind : failure.fault.kind = .stepExecution name reason) :
    ∃ earlier history visit error, visits = earlier ++ [visit] ∧
      Journey engine graph input context earlier history visit ∧
      visit.conclusion engine = .settled (.failure error) ∧ visit.task.name = name ∧
      visit.task.Misses error := by
  cases concludes with
  | empty => cases kind
  | dangling => cases kind
  | refused journey settled refuses =>
    cases refuses with
    | unmapped => cases kind
    | missed missed =>
      cases kind
      exact ⟨_, _, _, _, rfl, journey, settled, rfl, missed⟩
  | escaped journey escaped =>
    have abort := Settlement.kind_of_escaped escaped
    simp only [Raised.bare] at kind
    simp [kind, FaultKind.isAbort] at abort

end Flowtrace
