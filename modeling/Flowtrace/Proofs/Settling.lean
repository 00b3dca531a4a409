import Flowtrace.Proofs.Twins

/-! The styles in which a step may settle. A fault that is raised and the same failure returned, a
value that is returned bare and the same value returned as a success, a function that is awaited and
one that is not: a run takes the same course whichever style the step of each task has. -/

namespace Flowtrace

variable {φ : Type}

/-- A value that is not an outcome itself, so that returning it is a success. -/
def Value.IsBare (value : Value) : Prop :=
  ∀ inner, value ≠ .success inner ∧ value ≠ .failure inner

/-- A settlement in the same style or another. An abort is not a failure in any style. -/
inductive Settlement.Restyles : Settlement → Settlement → Prop where
  | same (settlement : Settlement) : Restyles settlement settlement
  | failed {fault : Fault} (handled : ¬ fault.kind.isAbort) :
      Restyles (.raised fault) (.returned (.failure fault.toValue))
  | wrapped {value : Value} (bare : value.IsBare) :
      Restyles (.returned value) (.returned (.success value))

/-- A step with the same effect on the context and possibly another style. A step may cease to be
awaited where no deadline could have caught up with it. -/
structure Step.Restyles (deadline : Option Deadline) (step restyled : Step) : Prop where
  mode : restyled.mode = step.mode ∨
    deadline = none ∧ step.mode = .awaited ∧ restyled.mode = .direct
  settlement : ∀ payload context,
    (step.act payload context).settlement.Restyles (restyled.act payload context).settlement
  context : ∀ payload context,
    (restyled.act payload context).context = (step.act payload context).context

theorem Settlement.conclusion_of_bare {value : Value} (bare : value.IsBare) :
    (Settlement.returned value).conclusion = .settled (.success value) := by
  cases value with
  | success inner => exact absurd rfl (bare inner).1
  | failure error => exact absurd rfl (bare error).2
  | _ => rfl

theorem Settlement.Restyles.conclusion_eq {settlement restyled : Settlement}
    (restyles : settlement.Restyles restyled) : restyled.conclusion = settlement.conclusion := by
  cases restyles with
  | same => rfl
  | failed handled => simp [Settlement.conclusion, handled]
  | wrapped bare => exact (Settlement.conclusion_of_bare bare).symm

/-- A step that stalls is given up at its deadline, and one that settles keeps its style. -/
theorem Settlement.Restyles.givenUp {behaviour restyled : Behaviour}
    (restyles : behaviour.settlement.Restyles restyled.settlement) :
    behaviour.givenUp.settlement.Restyles restyled.givenUp.settlement := by
  obtain ⟨settlement, _, _⟩ := behaviour
  obtain ⟨settlement', _, _⟩ := restyled
  cases restyles with
  | same => cases settlement <;> exact .same _
  | failed handled => exact .failed handled
  | wrapped bare => exact .wrapped bare

@[simp] theorem Behaviour.givenUp_context (behaviour : Behaviour) :
    behaviour.givenUp.context = behaviour.context := by
  unfold Behaviour.givenUp
  split <;> rfl

namespace Step.Restyles

variable {deadline : Option Deadline} {step restyled : Step}

/-- Called under the deadline, the two steps settle in two styles and leave the same context. -/
theorem perform (restyles : step.Restyles deadline restyled) (payload : Value)
    (context : Context) :
    (step.perform deadline payload context).settlement.Restyles
        (restyled.perform deadline payload context).settlement ∧
      (restyled.perform deadline payload context).context =
        (step.perform deadline payload context).context := by
  have settlement := restyles.settlement payload context
  have left := restyles.context payload context
  rcases restyles.mode with mode | ⟨rfl, awaited, direct⟩
  · unfold Step.perform
    rw [mode]
    split
    · exact ⟨.same _, rfl⟩
    · exact ⟨settlement.givenUp, by simpa using left⟩
    · exact ⟨settlement, left⟩
  · -- Without a deadline an awaited step is called like any other.
    simp only [Step.perform, awaited, direct]
    exact ⟨settlement, left⟩

end Step.Restyles

/-- A run stands at every turn where it would stand if the steps of any of its tasks were replaced
by steps that settle in another style. -/
theorem settling_is_invisible_to_routing (engine : Engine φ) (graph : TaskGraph φ)
    (replacement : Task φ → φ)
    (restyles : ∀ task ∈ graph.tasks,
      (engine.steps task.step).Restyles engine.deadline (engine.steps (replacement task)))
    (turns : Nat) (input : Value) (context : Context) :
    (engine.run turns graph input context).Repeats (graph.withSteps replacement)
      (engine.run turns (graph.withSteps replacement) input context) := by
  refine Engine.repeats_of_steps rfl replacement ?_ turns input context
  intro task member payload context
  obtain ⟨settles, left⟩ := (restyles task member).perform payload context
  exact ⟨settles.conclusion_eq, left⟩

/-- The style of a function that handles everything but aborts itself. -/
def Settlement.asOutcome : Settlement → Settlement
  | .returned (.success value) => .returned (.success value)
  | .returned (.failure error) => .returned (.failure error)
  | .returned value => .returned (.success value)
  | .raised fault =>
    if fault.kind.isAbort then .raised fault else .returned (.failure fault.toValue)
  | .stalled => .stalled

theorem Settlement.restyles_asOutcome (settlement : Settlement) :
    settlement.Restyles settlement.asOutcome := by
  unfold asOutcome
  split
  · exact .same _
  · exact .same _
  · rename_i value plain failed
    refine .wrapped fun inner => ⟨?_, ?_⟩
    · rintro rfl
      exact plain inner rfl
    · rintro rfl
      exact failed inner rfl
  · split
    · exact .same _
    · rename_i fault handled
      exact .failed handled
  · exact .same _

def Step.asOutcome (step : Step) : Step where
  mode := .direct
  act := fun payload context =>
    { step.act payload context with
      settlement := (step.act payload context).settlement.asOutcome }

theorem Step.restyles_asOutcome (step : Step) : step.Restyles none step.asOutcome where
  mode := by
    cases mode : step.mode with
    | direct => exact .inl rfl
    | awaited => exact .inr ⟨rfl, rfl, rfl⟩
  settlement := fun payload context => (step.act payload context).settlement.restyles_asOutcome
  context := fun _ _ => rfl

theorem retry_settles_in_any_style :
    (Retry.fetch.step.act .null []).settlement = .raised .timeout ∧
      (Retry.fetch.step.asOutcome.act .null []).settlement =
        .returned (.failure Fault.timeout.toValue) ∧
      (∀ task ∈ Retry.graph.tasks, task.step.Restyles none task.step.asOutcome) ∧
      (Retry.engine.run 14 Retry.graph .null (Retry.reply "found")).ending? =
        some (.returned Retry.found) ∧
      (Retry.engine.run 14 Retry.graph .null (Retry.reply "found")).Repeats
        (Retry.graph.withSteps fun task => task.step.asOutcome)
        (Retry.engine.run 14 (Retry.graph.withSteps fun task => task.step.asOutcome) .null
          (Retry.reply "found")) := by
  have restyles : ∀ task ∈ Retry.graph.tasks, task.step.Restyles none task.step.asOutcome :=
    fun task _ => task.step.restyles_asOutcome
  exact ⟨rfl, rfl, restyles, rfl,
    settling_is_invisible_to_routing Retry.engine Retry.graph _ restyles 14 _ _⟩

end Flowtrace
