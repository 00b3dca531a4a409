import Flowtrace.Proofs.Turns

/-! What runs hand from step to step. The payload and the context of every call are determined by
the call before it, and what a run reports agrees with the calls that it made. -/

namespace Flowtrace

variable {φ : Type}

/-- The payload that a settled call hands to the next one: an activity hands on its value, or its
failure behind the pattern that matched it, and a choice the payload that it was called with. -/
inductive Visit.Hands (engine : Engine φ) (visit : Visit φ) : Value → Prop where
  | value {next catches value} (routing : visit.task.routing = .activity next catches)
      (settled : visit.conclusion engine = .settled (.success value)) : Hands engine visit value
  | caught {next catches error position pattern target}
      (routing : visit.task.routing = .activity next catches)
      (settled : visit.conclusion engine = .settled (.failure error))
      (caught : visit.task.Catches error position pattern target) :
      Hands engine visit (.caught pattern error)
  | unchanged {branches value} (routing : visit.task.routing = .choice branches)
      (settled : visit.conclusion engine = .settled (.success value)) :
      Hands engine visit visit.payload

/-- Calls that follow each other: the first has what the run was started with, every further one
what the call before it handed on and left. -/
structure Threaded (engine : Engine φ) (input : Value) (context : Context)
    (visits : List (Visit φ)) : Prop where
  first : ∀ visit, visits[0]? = some visit → visit.payload = input ∧ visit.context = context
  next : ∀ (position : Nat) (prior later : Visit φ), visits[position]? = some prior →
    visits[position + 1]? = some later →
    later.context = prior.left engine ∧ prior.Hands engine later.payload
  choices : ∀ (first last : Nat) (prior later : Visit φ), first ≤ last →
    visits[first]? = some prior → visits[last]? = some later →
    (∀ (position : Nat) (made : Visit φ), first ≤ position → position < last →
      visits[position]? = some made → made.task.routing.isChoice = true) →
    later.payload = prior.payload

def Transition.entered? (transition : Transition) : Option (String × Value) :=
  transition.destination.map fun task => (task, transition.payload)

/-- What a run reports agrees with its calls. A successful run puts out what its last task
produced, which for a choice is not the payload that it would have handed on. -/
structure Accounted (engine : Engine φ) (context : Context) (visits : List (Visit φ))
    (ending : Ending φ) (result : RunResult) : Prop where
  entered : result.transitions.filterMap Transition.entered? =
    visits.map fun visit => (visit.task.name, visit.payload)
  context : result.context = (visits.getLast?.map fun visit => visit.left engine).getD context
  output : ending = .returned result → ∃ visit outcome edge final,
    visits.getLast? = some visit ∧ visit.conclusion engine = .settled outcome ∧
      visit.task.Selects outcome edge ∧ edge.target = none ∧
      result.output = outcome.produced edge.label ∧
      result.transitions.getLast? = some final ∧ final.payload = result.output

theorem Task.Catches.activity {task : Task φ} {error : Value} {position : Nat} {pattern : String}
    {target : Pointer} (caught : task.Catches error position pattern target) :
    ∃ next catches, task.routing = .activity next catches := by
  have entry := caught.entry
  cases routing : task.routing with
  | activity next catches => exact ⟨next, catches, rfl⟩
  | choice branches => simp [routing, Routing.catchEntries] at entry

theorem Visit.LeadsTo.hands {engine : Engine φ} {prior next : Visit φ} {outcome : Outcome}
    {edge : Edge} (leads : prior.LeadsTo engine outcome edge next) :
    prior.Hands engine next.payload := by
  obtain ⟨settled, selects, _, payload, _⟩ := leads
  rw [payload, Visit.carried, Task.handedOn]
  cases selects with
  | onward routing =>
    simpa [routing, Routing.isChoice, Outcome.produced] using Visit.Hands.value routing settled
  | caught caught =>
    obtain ⟨next, catches, routing⟩ := caught.activity
    simpa [routing, Routing.isChoice, Outcome.produced] using
      Visit.Hands.caught routing settled caught
  | branch routing entry =>
    simpa [routing, Routing.isChoice, Outcome.produced] using Visit.Hands.unchanged routing settled

theorem Visit.Hands.of_choice {engine : Engine φ} {visit : Visit φ} {payload : Value}
    (hands : visit.Hands engine payload) (choice : visit.task.routing.isChoice = true) :
    payload = visit.payload := by
  cases hands with
  | value routing _ => simp [routing, Routing.isChoice] at choice
  | caught routing _ _ => simp [routing, Routing.isChoice] at choice
  | unchanged => rfl

theorem Journey.entered_eq {engine : Engine φ} {graph : TaskGraph φ} {input : Value}
    {context : Context} {visits : List (Visit φ)} {history : List Transition} {visit : Visit φ}
    (journey : Journey engine graph input context visits history visit) :
    history.filterMap Transition.entered? =
      (visits ++ [visit]).map fun visit => (visit.task.name, visit.payload) := by
  have split : Transition.entered? =
      (fun entry : Option String × Value => entry.1.map fun task => (task, entry.2)) ∘
        fun transition => (transition.destination, transition.payload) := rfl
  rw [split, ← List.filterMap_map, journey.entered, List.filterMap_map]
  exact congrFun (List.filterMap_eq_map (f := fun visit : Visit φ => (visit.task.name, visit.payload))) _

theorem Engine.threaded (engine : Engine φ) (graph : TaskGraph φ) (input : Value)
    (context : Context) (turns : Nat) :
    Threaded engine input context (engine.visits turns graph input context) := by
  have next : ∀ (position : Nat) (prior later : Visit φ),
      (engine.visits turns graph input context)[position]? = some prior →
      (engine.visits turns graph input context)[position + 1]? = some later →
      later.context = prior.left engine ∧ prior.Hands engine later.payload := by
    intro position prior later made called
    obtain ⟨outcome, edge, leads⟩ := leadsTo_of_visits made called
    exact ⟨leads.context, leads.hands⟩
  refine ⟨?_, next, ?_⟩
  · intro visit made
    obtain ⟨history, journey⟩ := journey_of_visit made
    obtain ⟨task, start, _, called⟩ := journey.head
    simp only [List.take_zero, List.nil_append, List.getElem?_cons_zero, Option.some.injEq] at called
    subst called
    exact ⟨rfl, rfl⟩
  · -- By induction on the block of choices, each of which hands on what it was called with.
    intro first last prior later order made called choices
    obtain ⟨length, rfl⟩ := Nat.exists_eq_add_of_le order
    induction length generalizing later with
    | zero =>
      obtain rfl := Option.some.inj (made.symm.trans called)
      rfl
    | succ length ih =>
      have bound := (List.getElem?_eq_some_iff.mp called).1
      obtain ⟨middle, between⟩ : ∃ middle,
          (engine.visits turns graph input context)[first + length]? = some middle :=
        ⟨_, List.getElem?_eq_getElem (by omega)⟩
      have same := ih middle (by omega) between fun position visit after before =>
        choices position visit after (by omega)
      have hands := (next (first + length) middle later between called).2
      rw [hands.of_choice (choices _ middle (by omega) (by omega) between), same]

theorem Concludes.accounted {engine : Engine φ} {graph : TaskGraph φ} {input : Value}
    {context : Context} {visits : List (Visit φ)} {ending : Ending φ} {result : RunResult}
    (concludes : Concludes engine graph input context visits ending)
    (reported : ending.result? = some result) :
    Accounted engine context visits ending result := by
  have success := concludes.success_iff reported
  rcases concludes.result_cases reported with
    ⟨rfl, empty, rfl⟩ | ⟨earlier, history, visit, rfl, journey, reported⟩
  · exact ⟨rfl, rfl, fun returned => absurd (success.mpr returned) (by simp)⟩
  · rcases reported with ⟨output, rfl⟩ | ⟨outcome, edge, settled, selects, last, rfl⟩
    · exact ⟨journey.entered_eq, by simp, fun returned => absurd (success.mpr returned) (by simp)⟩
    · refine ⟨?_, by simp, fun _ => ⟨visit, outcome, edge, visit.departure outcome edge, by simp,
        settled, selects, last, rfl, by simp, Visit.departure_payload_of_end last⟩⟩
      simp [List.filterMap_append, journey.entered_eq, Transition.entered?, last]

/-- Only a run that its bus cut short or that an abort escaped from reports nothing. -/
theorem Engine.unreported {engine : Engine φ} {graph : TaskGraph φ} {input : Value}
    {context : Context} {turns : Nat} {ending : Ending φ}
    (ended : (engine.run turns graph input context).ending? = some ending)
    (nothing : ending.result? = none) :
    (∃ error, ending = .raised error ∧ engine.Interrupts error) ∨
      ∃ visit fault, (engine.visits turns graph input context).getLast? = some visit ∧
        visit.conclusion engine = .escaped fault ∧ ending = .raised (.bare fault) := by
  rcases concludes_or_interrupts ended with concludes | interrupted
  · generalize engine.visits turns graph input context = visits at concludes
    cases concludes with
    | escaped journey escaped => exact .inr ⟨_, _, List.getLast?_concat .., escaped, rfl⟩
    | empty | arrived | dangling | refused => cases nothing
  · exact .inl interrupted

/-- Every call of a run has the payload and the context that the call before it handed on and
left, however that call settled, and an ended run reports exactly these calls. -/
theorem run_threads_payload_and_context (engine : Engine φ) (graph : TaskGraph φ) (input : Value)
    (context : Context) (turns : Nat) :
    Threaded engine input context (engine.visits turns graph input context) ∧
      ∀ ending, (engine.run turns graph input context).ending? = some ending →
        (∀ result, ending.result? = some result →
          Accounted engine context (engine.visits turns graph input context) ending result) ∧
        (ending.result? = none →
          (∃ error, ending = .raised error ∧ engine.Interrupts error) ∨
            ∃ visit fault, (engine.visits turns graph input context).getLast? = some visit ∧
              visit.conclusion engine = .escaped fault ∧ ending = .raised (.bare fault)) := by
  refine ⟨engine.threaded graph input context turns, fun ending ended => ⟨?_, ?_⟩⟩
  · intro result reported
    exact (Engine.concludes_of_reported ended reported).accounted reported
  · exact Engine.unreported ended

theorem retry_threads_payload_and_context :
    (Retry.engine.run 14 Retry.graph .null (Retry.reply "found")).ending? =
        some (.returned Retry.found) ∧
      Accounted Retry.engine (Retry.reply "found")
        (Retry.engine.visits 14 Retry.graph .null (Retry.reply "found"))
        (.returned Retry.found) Retry.found :=
  ⟨rfl, ((run_threads_payload_and_context Retry.engine Retry.graph .null (Retry.reply "found")
    14).2 (.returned Retry.found) rfl).1 Retry.found rfl⟩

end Flowtrace
