import Flowtrace.Proofs.PartialRuns
import Flowtrace.Proofs.Proceeding
import Flowtrace.Proofs.Twins

/-! Runs that are resumed from a trace. The task that a run is about to call, the payload and the
context are all that the rest of the run depends on: neither the history nor the start flags count.
So a run that starts with them at that task goes on as the run did. -/

namespace Flowtrace

variable {φ : Type}

def TaskGraph.startingAt (graph : TaskGraph φ) (name : String) : TaskGraph φ :=
  graph.redefine (fun task => { task with start := task.name == name }) fun _ => rfl

/-- What remains of a result after so many transitions, behind the entry of a resumed run. -/
def RunResult.resumed (past : Nat) (entry : Transition) (result : RunResult) : RunResult :=
  { result with transitions := entry :: result.transitions.drop past }

def Ending.resumed (other : TaskGraph φ) (past : Nat) (entry : Transition) : Ending φ → Ending φ
  | .returned result => .returned (result.resumed past entry)
  | .raised error =>
    .raised { error with
      result := error.result.map (·.resumed past entry)
      graph := error.graph.map fun _ => other }

namespace TaskGraph

variable {graph : TaskGraph φ} {name : String} {task : Task φ}

theorem get?_startingAt (graph : TaskGraph φ) (start name : String) :
    (graph.startingAt start).get? name =
      (graph.get? name).map fun task => { task with start := task.name == start } :=
  get?_redefine name

theorem startTask?_startingAt (found : graph.get? name = some task) :
    (graph.startingAt name).startTask? = some { task with start := true } := by
  have flagged : (graph.startingAt name).tasks.find? (·.start) =
      (graph.get? name).map fun task => { task with start := task.name == name } := by
    simp only [startingAt, redefine, List.find?_map]
    rfl
  rw [startTask?, flagged, found, Option.map_some, Option.some_or]
  simp [(mem_of_get? found).2]

end TaskGraph

theorem Ending.across_entry (ending : Ending φ) (past : Side φ) (engine : Engine φ)
    (other : TaskGraph φ) (entry : Transition) (events : List Event) :
    ending.across past ⟨engine, other, [entry], events⟩ =
      ending.resumed other past.transitions.length entry := by
  cases ending <;> rfl

theorem Run.given_of_visit? {run : Run φ} {visit : Visit φ} (calls : run.visit? = some visit) :
    run.payload = visit.payload ∧ run.context = visit.context := by
  unfold visit? at calls
  split at calls
  · cases calls
    exact ⟨rfl, rfl⟩
  · cases calls

namespace Engine

variable {engine : Engine φ} {graph : TaskGraph φ} {input : Value} {context : Context}

/-- A run whose bus takes the two announcements calls its first step in its third turn. -/
theorem calling_of_start {task : Task φ} (start : graph.startTask? = some task)
    (begun : engine.refusal? .workflowStarted = none)
    (entered : engine.refusal? .stepStarted = none) (input : Value) (context : Context) :
    ∃ events notes, engine.run 2 graph input context =
      ⟨graph, .calling task, input, context, some task.name, [.entry task.name input], events,
        notes⟩ := by
  have started : (Event.workflowStarted task.name).kind = .workflowStarted := rfl
  have entering : (Event.stepStarted task.name).kind = .stepStarted := rfl
  simp only [Engine.run, Run.advanceBy, Run.start, Run.advance, start, Run.announce_eq, started,
    begun, Run.note, Run.enter, entering, entered]
  exact ⟨_, _, rfl⟩

variable {turn : Nat} {visit : Visit φ}

theorem current_of_visit (calls : (engine.run turn graph input context).visit? = some visit) :
    (engine.run turn graph input context).current = some visit.task.name := by
  rw [engine.current_eq, (journey_of_visit? calls).visited_eq, List.map_append,
    List.getLast?_append]
  rfl

theorem mirrors_startingAt (engine : Engine φ) (graph : TaskGraph φ) (name : String)
    (past recorded : List Transition) (told heard : List Event) :
    Side.Mirrors ⟨engine, graph, past, told⟩ ⟨engine, graph.startingAt name, recorded, heard⟩ where
  bus := rfl
  tasks := by
    intro target
    rw [TaskGraph.get?_startingAt]
    cases graph.get? target with
    | none => exact .none
    | some task => exact .some ⟨rfl, rfl, fun _ _ => rfl, fun _ _ => rfl⟩

/-- A run that is about to make a call is the twin of a run that starts with that call. -/
theorem twins_of_visit (calls : (engine.run turn graph input context).visit? = some visit) :
    ∃ events, Run.Twins
      ⟨engine, graph, (engine.run turn graph input context).transitions,
        (engine.run turn graph input context).events⟩
      ⟨engine, graph.startingAt visit.task.name, [.entry visit.task.name visit.payload], events⟩
      (engine.run turn graph input context)
      (engine.run 2 (graph.startingAt visit.task.name) visit.payload visit.context) := by
  have found := (journey_of_visit? calls).visited_task visit (by simp)
  obtain ⟨begun, entered⟩ := told_of_visit calls
  have resumed := engine.calling_of_start (TaskGraph.startTask?_startingAt found) begun entered
    visit.payload visit.context
  obtain ⟨events, notes, resumed⟩ := resumed
  rw [resumed]
  refine ⟨events, (engine.standing graph input context turn).same, rfl, ?_, ?_, ?_, ?_,
    ⟨[], by simp, by simp⟩, ⟨[], by simp, by simp⟩⟩
  · rw [Run.phase_of_visit? calls]
    exact .calling ⟨rfl, rfl, fun _ _ => rfl, fun _ _ => rfl⟩
  · exact (Run.given_of_visit? calls).1.symm
  · exact (Run.given_of_visit? calls).2.symm
  · exact (current_of_visit calls).symm

/-- A run that starts with a call ends as the run did that made it, but for the transitions made
before. -/
theorem resumed_of_visit {turns : Nat} {ending : Ending φ} (sooner : turn ≤ turns)
    (calls : (engine.run turn graph input context).visit? = some visit)
    (ended : (engine.run turns graph input context).ending? = some ending) :
    ∃ resumed, (engine.run resumed (graph.startingAt visit.task.name) visit.payload
      visit.context).ending? =
        some (ending.resumed (graph.startingAt visit.task.name)
          (engine.run turn graph input context).transitions.length
          (.entry visit.task.name visit.payload)) := by
  obtain ⟨spare, rfl⟩ := Nat.exists_eq_add_of_le sooner
  obtain ⟨events, twins⟩ := twins_of_visit calls
  have last := twins.advanceBy (mirrors_startingAt engine graph visit.task.name _ _ _ _) spare
  refine ⟨2 + spare, ?_⟩
  simp only [Engine.run, Run.advanceBy_add] at ended last ⊢
  rw [last.ending_across, ended, Option.map_some, Ending.across_entry]

/-- The transition of a reported trace that enters a task is the one that leads to a call. -/
theorem visit_of_transition {turns : Nat} {ending : Ending φ} {result : RunResult}
    (ended : (engine.run turns graph input context).ending? = some ending)
    (reported : ending.result? = some result) {position : Nat} {transition : Transition}
    {name : String} (recorded : result.transitions[position]? = some transition)
    (enters : transition.destination = some name) :
    ∃ made, (engine.visits turns graph input context)[position]? = some made ∧
      made.task.name = name ∧ made.payload = transition.payload := by
  rcases (concludes_of_reported ended reported).result_cases reported with
    ⟨_, _, rfl⟩ | ⟨earlier, history, visit, calls, journey, ways⟩
  · simp at recorded
  · have found : history[position]? = some transition := by
      rcases ways with ⟨output, rfl⟩ | ⟨outcome, edge, _, _, last, rfl⟩
      · exact recorded
      · rcases getElem?_concat_cases recorded with before | ⟨_, rfl⟩
        · exact before
        · -- The move out of the last task enters none.
          rw [Visit.departure_destination, last] at enters
          cases enters
    obtain ⟨made, called, destination, payload⟩ := journey.entered_at found
    rw [calls]
    exact ⟨made, called, Option.some.inj (destination.symm.trans enters), payload.symm⟩

end Engine

/-- Every transition of a reported trace that enters a task is a point to resume from. A run that
starts at that task, with the payload of the transition and the context of the call, makes the
transitions that came after and ends in the same way. -/
theorem runs_resume_from_their_trace (engine : Engine φ) (graph : TaskGraph φ) (input : Value)
    (context : Context) {turns : Nat} {ending : Ending φ} {result : RunResult}
    (ended : (engine.run turns graph input context).ending? = some ending)
    (reported : ending.result? = some result) {position : Nat} {transition : Transition}
    {name : String} (recorded : result.transitions[position]? = some transition)
    (enters : transition.destination = some name) :
    ∃ visit resumed, (engine.visits turns graph input context)[position]? = some visit ∧
      visit.task.name = name ∧ visit.payload = transition.payload ∧
      (engine.run resumed (graph.startingAt name) visit.payload visit.context).ending? =
        some (ending.resumed (graph.startingAt name) (position + 1)
          (.entry name visit.payload)) := by
  obtain ⟨visit, made, rfl, payload⟩ :=
    Engine.visit_of_transition ended reported recorded enters
  obtain ⟨turn, sooner, calls, before⟩ := Engine.turn_of_visit made
  have inside := (List.getElem?_eq_some_iff.mp made).1
  have past : (engine.run turn graph input context).transitions.length = position + 1 := by
    rw [(Engine.journey_of_visit? calls).length_history, before, List.length_take]
    omega
  obtain ⟨resumed, again⟩ := Engine.resumed_of_visit (Nat.le_of_lt sooner) calls ended
  rw [past] at again
  exact ⟨visit, resumed, made, rfl, payload, again⟩

theorem retry_resumes_after_it_recovered :
    (Retry.engine.run 14 Retry.graph .null (Retry.reply "found")).ending? =
        some (.returned Retry.found) ∧
      Retry.found.transitions[2]? = some (.move "recover" "then" "fetch" (.text "found")) ∧
      ∃ visit resumed,
        (Retry.engine.visits 14 Retry.graph .null (Retry.reply "found"))[2]? = some visit ∧
        visit.task.name = "fetch" ∧ visit.payload = .text "found" ∧
        (Retry.engine.run resumed (Retry.graph.startingAt "fetch") visit.payload
          visit.context).ending? =
            some (.returned (Retry.found.resumed 3 (.entry "fetch" visit.payload))) := by
  have ended : (Retry.engine.run 14 Retry.graph .null (Retry.reply "found")).ending? =
      some (.returned Retry.found) := rfl
  have recorded : Retry.found.transitions[2]? =
      some (.move "recover" "then" "fetch" (.text "found")) := rfl
  exact ⟨ended, recorded, runs_resume_from_their_trace Retry.engine Retry.graph .null
    (Retry.reply "found") ended rfl recorded rfl⟩

end Flowtrace
