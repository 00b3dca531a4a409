import Flowtrace.Proofs.Turns

/-! The trace of every run is a path of its graph: it starts at the start task, and each further
transition follows an edge out of the task that the transition before it entered. -/

namespace Flowtrace

variable {φ : Type}

/-- A transition leaves the task that the transition before it entered, along an edge of the kind
that the outcome of that task's step calls for. -/
structure FollowsEdge (engine : Engine φ) (graph : TaskGraph φ) (visit : Visit φ)
    (before after : Transition) : Prop where
  entered : before.destination = some visit.task.name
  source : after.source = before.destination
  task : graph.get? visit.task.name = some visit.task
  edge : ∃ outcome label, visit.conclusion engine = .settled outcome ∧ after.edge = some label ∧
    ⟨visit.task.name, label, after.destination, visit.task.kindAfter outcome⟩ ∈ graph.edges ∧
    after.label = if after.destination.isSome then label else endLabel

structure IsPath (engine : Engine φ) (graph : TaskGraph φ) (visits : List (Visit φ))
    (result : RunResult) : Prop where
  entry : graph.tasks ≠ [] → ∃ start first, graph.startTask? = some start ∧
    result.transitions[0]? = some first ∧ first.label = startLabel ∧ first.source = none ∧
    first.edge = none ∧ first.destination = some start.name
  follows : ∀ position after, result.transitions[position + 1]? = some after →
    ∃ before visit, result.transitions[position]? = some before ∧
      visits[position]? = some visit ∧ FollowsEdge engine graph visit before after
  last : ∀ position after, result.transitions[position + 1]? = some after →
    (after.destination = none ↔
      position + 2 = result.transitions.length ∧ result.success = true)

theorem Visit.departure_follows {engine : Engine φ} {graph : TaskGraph φ} {visit : Visit φ}
    {before : Transition} {outcome : Outcome} {edge : Edge}
    (entered : before.destination = some visit.task.name)
    (task : graph.get? visit.task.name = some visit.task)
    (settled : visit.conclusion engine = .settled outcome)
    (selects : visit.task.Selects outcome edge) :
    FollowsEdge engine graph visit before (visit.departure outcome edge) := by
  obtain ⟨member, source, kind⟩ := selects.edge
  refine ⟨entered, by rw [visit.departure_source, entered], task, outcome, edge.label, settled,
    visit.departure_edge outcome edge, ?_, ?_⟩
  · rw [visit.departure_destination, ← source, ← kind]
    exact List.mem_flatMap.mpr ⟨visit.task, (TaskGraph.mem_of_get? task).1, member⟩
  · rw [visit.departure_destination]
    exact visit.departure_label outcome edge

namespace Journey

variable {engine : Engine φ} {graph : TaskGraph φ} {input : Value} {context : Context}
  {visits : List (Visit φ)} {history : List Transition} {visit : Visit φ}

theorem follows (journey : Journey engine graph input context visits history visit) {position : Nat}
    {after : Transition} (found : history[position + 1]? = some after) :
    ∃ before made, history[position]? = some before ∧ (visits ++ [visit])[position]? = some made ∧
      FollowsEdge engine graph made before after ∧ after.destination ≠ none := by
  obtain ⟨next, called, destination, _⟩ := journey.entered_at found
  obtain ⟨prior, outcome, edge, made, leads, departed⟩ := journey.leg called
  have inside := (List.getElem?_eq_some_iff.mp found).1
  obtain ⟨other, same, entered, _⟩ :=
    journey.entered_at (List.getElem?_eq_getElem (Nat.lt_of_succ_lt inside))
  obtain rfl := Option.some.inj (made.symm.trans same)
  obtain rfl := Option.some.inj (departed.symm.trans found)
  have task := journey.visited_task prior (List.mem_of_getElem? made)
  exact ⟨_, prior, List.getElem?_eq_getElem _, made,
    Visit.departure_follows entered task leads.settled leads.selects, by simp [leads.target]⟩

theorem isPath_of_failure (journey : Journey engine graph input context visits history visit)
    (output : Value) (left : Context) :
    IsPath engine graph (visits ++ [visit]) ⟨false, history, output, left⟩ := by
  constructor
  · intro nonempty
    obtain ⟨start, selected, first, _⟩ := journey.head
    exact ⟨start, _, selected, first, rfl, rfl, rfl, rfl⟩
  · intro position after found
    obtain ⟨before, made, prior, called, follows, _⟩ := journey.follows found
    exact ⟨before, made, prior, called, follows⟩
  · intro position after found
    obtain ⟨before, made, prior, called, follows, enters⟩ := journey.follows found
    simp [enters]

/-- A successful run leaves one transition more, and it alone enters no task. -/
theorem isPath_of_arrival (journey : Journey engine graph input context visits history visit)
    {outcome : Outcome} {edge : Edge} (settled : visit.conclusion engine = .settled outcome)
    (selects : visit.task.Selects outcome edge) (last : edge.target = none) (output : Value)
    (left : Context) :
    IsPath engine graph (visits ++ [visit])
      ⟨true, history ++ [visit.departure outcome edge], output, left⟩ := by
  have length := journey.length_history
  -- The last transition leaves the last task that the journey entered.
  have final : ∃ before made, history[visits.length]? = some before ∧
      (visits ++ [visit])[visits.length]? = some made ∧
      FollowsEdge engine graph made before (visit.departure outcome edge) := by
    have found := List.getElem?_eq_getElem (show visits.length < history.length by omega)
    obtain ⟨made, called, entered, _⟩ := journey.entered_at found
    obtain rfl : visit = made := by simpa using called
    have task := journey.visited_task visit (by simp)
    exact ⟨_, visit, found, called, Visit.departure_follows entered task settled selects⟩
  have cases_of : ∀ position after,
      (history ++ [visit.departure outcome edge])[position + 1]? = some after →
      history[position + 1]? = some after ∨
        position = visits.length ∧ after = visit.departure outcome edge := by
    intro position after found
    rcases getElem?_concat_cases found with earlier | ⟨newest, same⟩
    · exact .inl earlier
    · exact .inr ⟨by omega, same⟩
  constructor
  · intro nonempty
    obtain ⟨start, selected, first, _⟩ := journey.head
    exact ⟨start, _, selected, getElem?_of_prefix (List.prefix_append _ _) first, rfl, rfl, rfl,
      rfl⟩
  · intro position after found
    rcases cases_of position after found with earlier | ⟨rfl, rfl⟩
    · obtain ⟨before, made, prior, called, follows, _⟩ := journey.follows earlier
      exact ⟨before, made, getElem?_of_prefix (List.prefix_append _ _) prior, called, follows⟩
    · obtain ⟨before, made, prior, called, follows⟩ := final
      exact ⟨before, made, getElem?_of_prefix (List.prefix_append _ _) prior, called, follows⟩
  · intro position after found
    rcases cases_of position after found with earlier | ⟨rfl, rfl⟩
    · obtain ⟨before, made, prior, called, follows, enters⟩ := journey.follows earlier
      have inside := (List.getElem?_eq_some_iff.mp earlier).1
      simp only [enters, List.length_append, List.length_singleton, false_iff]
      omega
    · simp [last, length]

end Journey

theorem Concludes.isPath {engine : Engine φ} {graph : TaskGraph φ} {input : Value}
    {context : Context} {visits : List (Visit φ)} {ending : Ending φ} {result : RunResult}
    (concludes : Concludes engine graph input context visits ending)
    (reported : ending.result? = some result) : IsPath engine graph visits result := by
  rcases concludes.result_cases reported with
    ⟨rfl, empty, rfl⟩ | ⟨earlier, history, visit, rfl, journey, reported⟩
  · exact ⟨fun nonempty => absurd empty nonempty, by simp, by simp⟩
  · rcases reported with ⟨output, rfl⟩ | ⟨outcome, edge, settled, selects, last, rfl⟩
    · exact journey.isPath_of_failure output _
    · exact journey.isPath_of_arrival settled selects last _ _

/-- Every run that returns, or that fails with a fault of its own, reports a path of its graph:
the trace enters the start task first, every further transition follows an edge out of the task
that was entered before, and only the last transition of a successful run enters no task. -/
theorem trace_is_path (engine : Engine φ) (graph : TaskGraph φ) (input : Value)
    (context : Context) (turns : Nat) (ending : Ending φ) (unhindered : engine.Unhindered)
    (ended : (engine.run turns graph input context).ending? = some ending)
    (own : ending.isOwn = true) :
    ∃ result, ending.result? = some result ∧
      (result.success = true ↔ ending = .returned result) ∧
      IsPath engine graph (engine.visits turns graph input context) result := by
  have concludes := Engine.concludes_of_unhindered unhindered ended
  obtain ⟨result, reported⟩ := concludes.reports own
  exact ⟨result, reported, concludes.success_iff reported, concludes.isPath reported⟩

theorem retry_trace_is_path :
    Retry.engine.Unhindered ∧
      (Retry.engine.run 14 Retry.graph .null (Retry.reply "found")).ending? =
        some (.returned Retry.found) ∧
      (Ending.returned Retry.found : Ending Step).isOwn = true ∧
      ∃ result, (Ending.returned Retry.found : Ending Step).result? = some result ∧
        (result.success = true ↔ (.returned Retry.found : Ending Step) = .returned result) ∧
        IsPath Retry.engine Retry.graph
          (Retry.engine.visits 14 Retry.graph .null (Retry.reply "found")) result :=
  ⟨Retry.unhindered, rfl, rfl,
    trace_is_path Retry.engine Retry.graph .null (Retry.reply "found") 14 (.returned Retry.found)
      Retry.unhindered rfl rfl⟩

end Flowtrace
