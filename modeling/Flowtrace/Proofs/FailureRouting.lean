import Flowtrace.Proofs.Turns

/-! What becomes of a failed step. The run fails with it exactly if no catch entry of the task
matches it and the bus takes the reports of that; otherwise the first entry that matches takes the
failure on, unchanged. Nothing here depends on the rest of the run, so it holds of every step of
every run. -/

namespace Flowtrace

variable {φ : Type}

/-- The run makes no call after the one of this turn, and raises a fault of that step itself. -/
def FailsOn (engine : Engine φ) (graph : TaskGraph φ) (input : Value) (context : Context)
    (turn : Nat) (visit : Visit φ) : Prop :=
  ∃ turns failure reason,
    (engine.run turns graph input context).ending? = some (.raised failure) ∧
      failure.result ≠ none ∧ failure.fault.kind = .stepExecution visit.task.name reason ∧
      engine.visits turns graph input context =
        engine.visits turn graph input context ++ [visit]

/-- A value takes the entry of a pattern: the very next transition carries it to the target or out
of the workflow, and the run fails over it if there is no such target. -/
structure Takes (engine : Engine φ) (graph : TaskGraph φ) (input : Value) (context : Context)
    (turn : Nat) (visit : Visit φ) (pattern : String) (target : Pointer) (value : Value) :
    Prop where
  leaves : target = none → ∀ later, turn + 2 ≤ later →
    (engine.run turn graph input context).transitions ++
        [.exit visit.task.name pattern value] <+:
      (engine.run later graph input context).transitions
  enters : ∀ name next, target = some name → graph.get? name = some next →
    ∀ later, turn + 2 ≤ later →
      (engine.run turn graph input context).transitions ++
          [.move visit.task.name pattern next.name value] <+:
        (engine.run later graph input context).transitions
  dangles : engine.refusal? .workflowFailed = none →
    ∀ name, target = some name → graph.get? name = none →
    (engine.run (turn + 3) graph input context).ending? =
      some (.raised ⟨.taskNotFound name, false,
        some ⟨false, (engine.run turn graph input context).transitions, value,
          visit.left engine⟩,
        some graph⟩)

section Settled

variable {engine : Engine φ} {graph : TaskGraph φ} {input : Value} {context : Context}
  {turn : Nat} {visit : Visit φ} {error : Value}

theorem Engine.reporting_of_failure
    (calls : (engine.run turn graph input context).visit? = some visit)
    (failed : visit.conclusion engine = .settled (.failure error)) :
    (engine.run (turn + 1) graph input context).phase = .reporting visit.task (.failure error) ∧
      (engine.run (turn + 1) graph input context).transitions =
        (engine.run turn graph input context).transitions ∧
      (engine.run (turn + 1) graph input context).context = visit.left engine := by
  obtain ⟨called, _⟩ := Run.advance_of_visit? calls failed
  rw [engine.run_succ, called]
  exact ⟨rfl, rfl, rfl⟩

/-- Two turns after the call of a failing step, the failure has been routed. -/
theorem Engine.routed_of_failure
    (calls : (engine.run turn graph input context).visit? = some visit)
    (failed : visit.conclusion engine = .settled (.failure error))
    (taken : engine.refusal? .stepFailed = none) :
    ∃ settled : Run φ, engine.run (turn + 2) graph input context =
        settled.take visit.task (visit.task.afterFailure error) ∧
      settled.graph = graph ∧
      settled.transitions = (engine.run turn graph input context).transitions ∧
      settled.context = visit.left engine ∧
      engine.visits (turn + 2) graph input context =
        engine.visits turn graph input context ++ [visit] := by
  obtain ⟨phase, transitions, left⟩ := reporting_of_failure calls failed
  obtain ⟨notes, events, routed⟩ := Run.advance_of_reporting phase taken
  have same := (engine.standing graph input context (turn + 1)).same
  have silent : (engine.run (turn + 1) graph input context).visit? = none := by
    simp [Run.visit?, phase]
  exact ⟨_, (engine.run_succ graph input context (turn + 1)).trans routed, same, transitions, left,
    by simp [engine.visits_succ, silent, calls]⟩

theorem Engine.failing_of_misses
    (calls : (engine.run turn graph input context).visit? = some visit)
    (failed : visit.conclusion engine = .settled (.failure error))
    (taken : engine.refusal? .stepFailed = none) (missed : visit.task.Misses error) :
    ∃ failure, (engine.run (turn + 2) graph input context).phase = .failing failure ∧
      failure.result ≠ none ∧
      failure.fault.kind = .stepExecution visit.task.name (some visit.task.unhandledReason) ∧
      engine.visits (turn + 2) graph input context =
        engine.visits turn graph input context ++ [visit] := by
  obtain ⟨settled, routed, _, _, _, calls⟩ := routed_of_failure calls failed taken
  have moved : visit.task.afterFailure error =
      .refuse (.stepExecution visit.task.name error (some visit.task.unhandledReason)) error
        error.toFault?.isSome := by
    simp [Task.afterFailure, (visit.task.catchFor?_eq_none_iff error).mpr missed]
  rw [moved] at routed
  exact ⟨_, congrArg Run.phase routed, by simp, rfl, calls⟩

theorem Engine.failsOn_of_misses
    (calls : (engine.run turn graph input context).visit? = some visit)
    (failed : visit.conclusion engine = .settled (.failure error))
    (taken : engine.refusal? .stepFailed = none) (told : engine.refusal? .workflowFailed = none)
    (missed : visit.task.Misses error) : FailsOn engine graph input context turn visit := by
  obtain ⟨failure, phase, own, kind, calls⟩ := failing_of_misses calls failed taken missed
  have silent : (engine.run (turn + 2) graph input context).visit? = none := by
    simp [Run.visit?, phase]
  have ended := Run.advance_of_failing phase told
  rw [← engine.run_succ] at ended
  refine ⟨turn + 3, failure, _, ended, own, kind, ?_⟩
  simp [engine.visits_succ graph input context (turn + 2), silent, calls]

theorem Engine.taken_of_failsOn
    (calls : (engine.run turn graph input context).visit? = some visit)
    (failed : visit.conclusion engine = .settled (.failure error))
    (fails : FailsOn engine graph input context turn visit) :
    engine.refusal? .stepFailed = none := by
  cases refused : engine.refusal? .stepFailed with
  | none => rfl
  | some fault =>
    obtain ⟨turns, failure, _, ended, own, _, _⟩ := fails
    obtain ⟨phase, _⟩ := reporting_of_failure calls failed
    have going : (engine.run (turn + 1) graph input context).ending? = none := by
      simp [Run.ending?, phase]
    have cut : (engine.run (turn + 2) graph input context).Cut := by
      rw [engine.run_succ]
      simp only [Run.advance, phase]
      exact Run.cut_announce refused
    exact absurd (engine.unreported_of_cut graph input context going cut ended) own

theorem Engine.told_of_failsOn
    (calls : (engine.run turn graph input context).visit? = some visit)
    (failed : visit.conclusion engine = .settled (.failure error))
    (missed : visit.task.Misses error)
    (fails : FailsOn engine graph input context turn visit) :
    engine.refusal? .workflowFailed = none := by
  have taken := taken_of_failsOn calls failed fails
  cases refused : engine.refusal? .workflowFailed with
  | none => rfl
  | some fault =>
    obtain ⟨turns, failure, _, ended, own, _, _⟩ := fails
    obtain ⟨_, phase, _⟩ := failing_of_misses calls failed taken missed
    have going : (engine.run (turn + 2) graph input context).ending? = none := by
      simp [Run.ending?, phase]
    have cut : (engine.run (turn + 3) graph input context).Cut := by
      rw [engine.run_succ]
      simp only [Run.advance, phase]
      exact Run.cut_announce refused
    exact absurd (engine.unreported_of_cut graph input context going cut ended) own

theorem Engine.misses_of_failsOn
    (failed : visit.conclusion engine = .settled (.failure error))
    (fails : FailsOn engine graph input context turn visit) : visit.task.Misses error := by
  obtain ⟨turns, failure, reason, ended, own, kind, calls⟩ := fails
  obtain ⟨result, reported⟩ := Option.ne_none_iff_exists'.mp own
  have concludes := concludes_of_reported ended reported
  obtain ⟨earlier, history, last, missed, visits, _, settled, _, misses⟩ :=
    concludes.step_failure kind
  rw [calls] at visits
  obtain ⟨_, same⟩ := List.append_inj' visits rfl
  cases same
  rw [failed] at settled
  cases settled
  exact misses

theorem Engine.takes_of_catches {position : Nat} {pattern : String} {target : Pointer}
    (calls : (engine.run turn graph input context).visit? = some visit)
    (failed : visit.conclusion engine = .settled (.failure error))
    (taken : engine.refusal? .stepFailed = none)
    (caught : visit.task.Catches error position pattern target) :
    Takes engine graph input context turn visit pattern target (.caught pattern error) := by
  obtain ⟨settled, routed, same, history, left, calls⟩ := routed_of_failure calls failed taken
  have found := (visit.task.catchFor?_eq_some_iff error pattern target).mpr ⟨position, caught⟩
  have moved : visit.task.afterFailure error =
      .along pattern target (.caught pattern error) (.caught pattern error) := by
    simp [Task.afterFailure, found]
  rw [moved] at routed
  constructor
  · rintro rfl later after
    have transitions := congrArg Run.transitions routed
    simp only [Move.along, Run.take, Run.leave, history] at transitions
    rw [← transitions]
    exact engine.transitions_prefix graph input context after
  · rintro name next rfl found later after
    have transitions := congrArg Run.transitions routed
    simp only [Move.along, Run.take, same, found, Run.enter, history] at transitions
    rw [← transitions]
    exact engine.transitions_prefix graph input context after
  · rintro told name rfl missing
    have phase := congrArg Run.phase routed
    simp only [Move.along, Run.take, same, missing, Run.failWith, Run.partialResult, history, left]
      at phase
    rw [engine.run_succ]
    exact Run.advance_of_failing phase told

/-- A pattern of stars alone leaves no failure to the run or to the entries after it. -/
theorem Engine.star_catches {position : Nat} {pattern : String} {target : Pointer}
    (entry : visit.task.routing.catchEntries[position]? = some (pattern, target))
    (star : pattern = "*" ∨ pattern = "**") :
    ¬ visit.task.Misses error ∧
      ∀ selected other otherTarget, visit.task.Catches error selected other otherTarget →
        selected ≤ position := by
  obtain ⟨description, described⟩ := List.exists_mem_of_ne_nil _ error.descriptions_ne_nil
  have matched := matchesText_of_star star description
  constructor
  · intro missed
    exact absurd matched
      (by simp [missed _ (List.mem_of_getElem? entry) description described])
  · intro selected other otherTarget caught
    exact caught.position_le entry ⟨description, described, matched⟩

end Settled

/-- Every failure of every step of every run is routed by the first match. The run fails with it
exactly if nothing matches it, unless the bus raises when it is told of the failed step or of the
failed run; otherwise one entry takes it, the first one to match. -/
theorem failures_take_first_match (engine : Engine φ) (graph : TaskGraph φ) (input : Value)
    (context : Context) :
    (∀ turn visit error, (engine.run turn graph input context).visit? = some visit →
      visit.conclusion engine = .settled (.failure error) →
      (FailsOn engine graph input context turn visit ↔
        engine.refusal? .stepFailed = none ∧ engine.refusal? .workflowFailed = none ∧
          visit.task.Unrecovered error) ∧
      (¬ visit.task.Unrecovered error →
        ∃ position pattern target, visit.task.Catches error position pattern target ∧
          (∀ other otherPattern otherTarget,
            visit.task.Catches error other otherPattern otherTarget →
              other = position ∧ otherPattern = pattern ∧ otherTarget = target) ∧
          (engine.refusal? .stepFailed = none →
            Takes engine graph input context turn visit pattern target
              (.caught pattern error))) ∧
      ∀ position pattern target,
        visit.task.routing.catchEntries[position]? = some (pattern, target) →
        pattern = "*" ∨ pattern = "**" →
        ¬ FailsOn engine graph input context turn visit ∧
          ∀ selected other otherTarget, visit.task.Catches error selected other otherTarget →
            selected ≤ position) ∧
    ∀ turns failure name reason task,
      (engine.run turns graph input context).ending? = some (.raised failure) →
      failure.result ≠ none → failure.fault.kind = .stepExecution name reason →
      graph.get? name = some task →
      ∀ entry ∈ task.routing.catchEntries, entry.1 ≠ "*" ∧ entry.1 ≠ "**" := by
  constructor
  · intro turn visit error calls failed
    refine ⟨⟨fun fails => ?_, ?_⟩, ?_, ?_⟩
    · have missed := Engine.misses_of_failsOn failed fails
      exact ⟨Engine.taken_of_failsOn calls failed fails,
        Engine.told_of_failsOn calls failed missed fails,
        (visit.task.misses_iff error).mp missed⟩
    · rintro ⟨taken, told, unrecovered⟩
      exact Engine.failsOn_of_misses calls failed taken told
        ((visit.task.misses_iff error).mpr unrecovered)
    · intro recovered
      obtain ⟨position, pattern, target, caught⟩ :=
        Task.catches_of_not_misses fun missed => recovered ((visit.task.misses_iff error).mp missed)
      exact ⟨position, pattern, target, caught, fun _ _ _ other => other.unique caught,
        fun taken => Engine.takes_of_catches calls failed taken caught⟩
    · intro position pattern target entry star
      obtain ⟨caught, first⟩ := Engine.star_catches entry star
      exact ⟨fun fails => caught (Engine.misses_of_failsOn failed fails), first⟩
  · intro turns failure name reason task ended own kind known entry member
    obtain ⟨result, reported⟩ := Option.ne_none_iff_exists'.mp own
    have concludes := Engine.concludes_of_reported ended reported
    obtain ⟨earlier, history, visit, error, _, journey, _, rfl, missed⟩ :=
      concludes.step_failure kind
    have same := journey.visited_task visit (by simp)
    obtain rfl := Option.some.inj (same.symm.trans known)
    obtain ⟨position, found⟩ := List.mem_iff_getElem?.mp member
    constructor
    · exact fun star => (Engine.star_catches found (.inl star)).1 missed
    · exact fun star => (Engine.star_catches found (.inr star)).1 missed

theorem retry_failure_takes_first_match :
    (Retry.engine.run 2 Retry.graph .null (Retry.reply "found")).visit? =
        some ⟨Retry.fetch, .null, Retry.reply "found"⟩ ∧
      (⟨Retry.fetch, .null, Retry.reply "found"⟩ : Visit Step).conclusion Retry.engine =
        .settled (.failure Fault.timeout.toValue) ∧
      ¬ Retry.fetch.Unrecovered Fault.timeout.toValue ∧
      Retry.engine.refusal? .stepFailed = none ∧
      ∃ position pattern target,
        Retry.fetch.Catches Fault.timeout.toValue position pattern target ∧
          Takes Retry.engine Retry.graph .null (Retry.reply "found") 2
            ⟨Retry.fetch, .null, Retry.reply "found"⟩ pattern target
            (.caught pattern Fault.timeout.toValue) := by
  have recovered : ¬ Retry.fetch.Unrecovered Fault.timeout.toValue := by
    rintro (choice | ⟨_, undeclared⟩ | ⟨_, catches, same, missed⟩)
    · cases choice
    · cases undeclared
    · cases same
      have matched : matchesText "*Timeout*" "TimeoutError" = true := by decide
      have described : "TimeoutError" ∈ Fault.timeout.toValue.descriptions := by decide
      exact absurd matched (by simp [missed "*Timeout*" (by decide) _ described])
  obtain ⟨position, pattern, target, caught, _, takes⟩ :=
    ((failures_take_first_match Retry.engine Retry.graph .null (Retry.reply "found")).1 2
      ⟨Retry.fetch, .null, Retry.reply "found"⟩ Fault.timeout.toValue rfl rfl).2.1 recovered
  exact ⟨rfl, rfl, recovered, rfl, position, pattern, target, caught, takes rfl⟩

def Retry.unguarded : Task Step := { Retry.fetch with routing := .activity none none }

def Retry.breakdown : Fault := ⟨.exception "RuntimeError", [.text "bus down"]⟩

def Retry.alarmed : Engine Step := ⟨id, none, some (.refusing .stepFailed Retry.breakdown)⟩

/-- A run whose bus breaks down ends with the breakdown, not with the failure that nothing
matches. -/
theorem retry_failure_lost_to_the_bus :
    (Retry.alarmed.run 2 (.ofList [Retry.unguarded]) .null []).visit? =
        some ⟨Retry.unguarded, .null, []⟩ ∧
      (⟨Retry.unguarded, .null, []⟩ : Visit Step).conclusion Retry.alarmed =
        .settled (.failure Fault.timeout.toValue) ∧
      Retry.unguarded.Unrecovered Fault.timeout.toValue ∧
      (Retry.alarmed.run 4 (.ofList [Retry.unguarded]) .null []).ending? =
        some (.raised (.bare Retry.breakdown)) ∧
      ¬ FailsOn Retry.alarmed (.ofList [Retry.unguarded]) .null [] 2
        ⟨Retry.unguarded, .null, []⟩ := by
  refine ⟨rfl, rfl, .inr (.inl ⟨none, rfl⟩), rfl, fun fails => ?_⟩
  have taken : Retry.alarmed.refusal? .stepFailed = none := Engine.taken_of_failsOn rfl rfl fails
  cases taken

end Flowtrace
