import Mathlib.Data.List.Nodup
import Mathlib.Data.List.Perm.Subperm
import Flowtrace.Proofs.Recasting

/-! Equal graphs. Equality compares catch entries and branches as mappings, without their order. A
choice looks its branch up, so the order of its branches counts for nothing. An activity tries its
catch entries one after the other, so equal graphs may resolve one failure behind two patterns, and
that is the only turn at which their runs can part. -/

namespace Flowtrace

variable {φ : Type}

namespace OrderedMap

variable {κ α : Type} [DecidableEq κ] {left right : OrderedMap κ α}

theorem perm_of_sameEntries [DecidableEq α] (same : left.sameEntries right = true) :
    left.entries.Perm right.entries := by
  obtain ⟨lengths, found⟩ : left.entries.length = right.entries.length ∧
      ∀ entry ∈ left.entries, right.get? entry.1 = some entry.2 := by
    simpa [sameEntries] using same
  have inside : left.entries ⊆ right.entries := by
    intro entry member
    exact (right.get?_eq_some_iff entry.1 entry.2).mp (found entry member)
  have once : left.entries.Nodup := List.Nodup.of_map Prod.fst left.distinct
  exact (List.subperm_of_subset once inside).perm_of_length_le (Nat.le_of_eq lengths.symm)

theorem get?_eq_of_perm (entries : left.entries.Perm right.entries) (key : κ) :
    left.get? key = right.get? key := by
  apply Option.ext
  intro value
  rw [left.get?_eq_some_iff, right.get?_eq_some_iff, entries.mem_iff]

end OrderedMap

/-- The same routing, but for the order of catch entries and of branches. -/
inductive Routing.Equals : Routing → Routing → Prop where
  | uncaught (next : Pointer) : Equals (.activity next none) (.activity next none)
  | caught (next : Pointer) {twins catches : OrderedMap String Pointer}
      (entries : twins.entries.Perm catches.entries) :
      Equals (.activity next (some twins)) (.activity next (some catches))
  | choice {twins branches : OrderedMap String Pointer}
      (entries : twins.entries.Perm branches.entries) :
      Equals (.choice twins) (.choice branches)

theorem Routing.equals_of_equivalent {routing twin : Routing}
    (equal : routing.equivalent twin = true) : twin.Equals routing := by
  unfold equivalent at equal
  split at equal
  · obtain rfl := beq_iff_eq.mp equal
    exact .uncaught _
  · obtain ⟨next, entries⟩ := Bool.and_eq_true_iff.mp equal
    obtain rfl := beq_iff_eq.mp next
    exact .caught _ (OrderedMap.perm_of_sameEntries entries).symm
  · exact .choice (OrderedMap.perm_of_sameEntries equal).symm
  · cases equal

structure Task.Equals (engine : Engine φ) (twin task : Task φ) : Prop where
  name : twin.name = task.name
  step : engine.steps twin.step = engine.steps task.step
  start : twin.start = task.start
  routing : twin.routing.Equals task.routing

def Task.catchPatterns (task : Task φ) : List String := task.routing.catchEntries.map Prod.fst

def TaskGraph.catchPatterns (graph : TaskGraph φ) : List (List String) :=
  graph.tasks.map Task.catchPatterns

/-- Both tasks catch the failure, but another of the matching patterns comes first in each. -/
def Task.Disputes (task twin : Task φ) (error : Value) (pattern twinPattern : String) : Prop :=
  pattern ≠ twinPattern ∧
    (∃ position target, task.Catches error position pattern target) ∧
    ∃ position target, twin.Catches error position twinPattern target

namespace Task.Equals

variable {engine : Engine φ} {twin task : Task φ}

theorem catchEntries (equals : twin.Equals engine task) :
    twin.routing.catchEntries.Perm task.routing.catchEntries := by
  obtain ⟨_, _, _, routing⟩ := equals
  generalize twin.routing = after at routing
  generalize task.routing = before at routing
  cases routing with
  | uncaught next => exact .nil
  | caught next entries => exact entries
  | choice entries => exact .nil

theorem misses_iff (equals : twin.Equals engine task) (error : Value) :
    twin.Misses error ↔ task.Misses error := by
  simp only [Misses, equals.catchEntries.mem_iff]

theorem afterSuccess (equals : twin.Equals engine task) (payload value : Value) :
    twin.afterSuccess payload value = task.afterSuccess payload value := by
  obtain ⟨name, _, _, routing⟩ := equals
  unfold Task.afterSuccess
  rw [name]
  generalize twin.routing = after at routing
  generalize task.routing = before at routing
  cases routing with
  | uncaught next => rfl
  | caught next entries => rfl
  | choice entries => simp only [OrderedMap.get?_eq_of_perm entries]

theorem unhandledReason (equals : twin.Equals engine task) :
    twin.unhandledReason = task.unhandledReason := by
  obtain ⟨_, _, _, routing⟩ := equals
  unfold Task.unhandledReason
  generalize twin.routing = after at routing
  generalize task.routing = before at routing
  cases routing with
  | uncaught next => rfl
  | caught next entries => rfl
  | choice entries => rfl

theorem routes (equals : twin.Equals engine task) {outcome : Outcome}
    (caught : ∀ error, outcome = .failure error → twin.catchFor? error = task.catchFor? error)
    (payload : Value) :
    twin.nextMove payload outcome = task.nextMove payload outcome ∧
      twin.catchNotes outcome = task.catchNotes outcome := by
  cases outcome with
  | success value => exact ⟨equals.afterSuccess payload value, rfl⟩
  | failure error =>
    have same := caught error rfl
    simp only [nextMove, catchNotes, afterFailure, same, equals.name, equals.unhandledReason,
      and_self]

/-- Equal tasks catch a failure alike, or each behind a pattern of its own. -/
theorem catchFor?_or_disputes (equals : twin.Equals engine task) (error : Value) :
    twin.catchFor? error = task.catchFor? error ∨
      ∃ pattern twinPattern, task.Disputes twin error pattern twinPattern := by
  by_cases missed : task.Misses error
  · have both := (equals.misses_iff error).mpr missed
    rw [(task.catchFor?_eq_none_iff error).mpr missed, (twin.catchFor?_eq_none_iff error).mpr both]
    exact .inl rfl
  · have both : ¬ twin.Misses error := mt (equals.misses_iff error).mp missed
    obtain ⟨position, pattern, target, catches⟩ := Task.catches_of_not_misses missed
    obtain ⟨twinPosition, twinPattern, twinTarget, twinCatches⟩ := Task.catches_of_not_misses both
    by_cases same : pattern = twinPattern
    · subst twinPattern
      have declared := List.mem_of_getElem? catches.entry
      have also := equals.catchEntries.mem_iff.mp (List.mem_of_getElem? twinCatches.entry)
      have entries := List.inj_on_of_nodup_map task.routing.catchEntries_distinct also declared rfl
      rw [(task.catchFor?_eq_some_iff error pattern target).mpr ⟨_, catches⟩,
        (twin.catchFor?_eq_some_iff error pattern twinTarget).mpr ⟨_, twinCatches⟩, entries]
      exact .inl rfl
    · exact .inr ⟨pattern, twinPattern, same, ⟨_, _, catches⟩, ⟨_, _, twinCatches⟩⟩

end Task.Equals

theorem Task.Disputes.patterns_ne {task twin : Task φ} {error : Value}
    {pattern twinPattern : String} (disputes : task.Disputes twin error pattern twinPattern) :
    twin.catchPatterns ≠ task.catchPatterns := by
  obtain ⟨differ, ⟨_, target, catches⟩, ⟨_, twinTarget, twinCatches⟩⟩ := disputes
  have found := (task.catchFor?_eq_some_iff error pattern target).mpr ⟨_, catches⟩
  have twinFound := (twin.catchFor?_eq_some_iff error twinPattern twinTarget).mpr ⟨_, twinCatches⟩
  intro patterns
  -- Entries are tried by their patterns alone, so the first match is one of the list of patterns.
  have tried : ∀ tried : Task φ, (tried.catchFor? error).map Prod.fst =
      tried.catchPatterns.find? error.isCaughtBy := by
    intro tried
    rw [catchPatterns, List.find?_map]
    rfl
  have same := tried twin
  rw [patterns, ← tried task, found, twinFound] at same
  exact differ (Option.some.inj same).symm

theorem TaskGraph.related_of_equivalent [BEq φ] {engine : Engine φ} {graph other : TaskGraph φ}
    (steps : ∀ step twin : φ, (step == twin) = true → engine.steps twin = engine.steps step)
    (equal : graph.equivalent other = true) :
    other.Related (fun twin task => twin.Equals engine task) graph where
  tasks := by
    obtain ⟨sizes, pairs⟩ := Bool.and_eq_true_iff.mp equal
    refine (List.forall₂_iff_zip.mpr ⟨beq_iff_eq.mp sizes, ?_⟩).flip
    intro task twin paired
    have alike := List.all_eq_true.mp pairs _ paired
    simp only [Task.equivalent, Bool.and_eq_true, beq_iff_eq] at alike
    obtain ⟨⟨⟨name, step⟩, routing⟩, start⟩ := alike
    exact ⟨name.symm, steps _ _ step, start.symm, Routing.equals_of_equivalent routing⟩
  name := (·.name)
  start := (·.start)

def Run.held (run : Run φ) : Value :=
  match run.phase with
  | .failing failure => (failure.result.map (·.output)).getD run.payload
  | _ => run.payload

/-- A run about to resolve a failure that its graph and another catch behind different patterns. -/
def Run.Disputed (engine : Engine φ) (other : TaskGraph φ) (run : Run φ) : Prop :=
  ∃ task error pattern twinPattern, run.phase = .reporting task (.failure error) ∧
    engine.refusal? .stepFailed = none ∧
    task.Disputes (other.namesake task) error pattern twinPattern

/-- The turn at which the runs of two graphs part. The bus takes the failure of a step that both
graphs catch, each behind the first of its own patterns that match, and either run goes on with the
failure behind its pattern. -/
structure Engine.PartsAt (engine : Engine φ) (graph other : TaskGraph φ) (input : Value)
    (context : Context) (turn : Nat) (task twin : Task φ) (error : Value)
    (pattern twinPattern : String) : Prop where
  known : graph.get? task.name = some task
  twinKnown : other.get? task.name = some twin
  reporting : (engine.run turn graph input context).phase = .reporting task (.failure error)
  disputes : task.Disputes twin error pattern twinPattern
  held : (engine.run (turn + 1) graph input context).held = .caught pattern error
  twinHeld : (engine.run (turn + 1) other input context).held = .caught twinPattern error

/-- Whatever the entry of a caught failure leads to, the failure is handed on behind its pattern. -/
theorem Run.held_of_catches {engine : Engine φ} {run : Run φ} {task : Task φ} {error : Value}
    {position : Nat} {pattern : String} {target : Pointer}
    (phase : run.phase = .reporting task (.failure error))
    (taken : engine.refusal? .stepFailed = none)
    (catches : task.Catches error position pattern target) :
    (run.advance engine).held = .caught pattern error := by
  obtain ⟨notes, events, routed⟩ := advance_of_reporting phase taken
  have found := (task.catchFor?_eq_some_iff error pattern target).mpr ⟨position, catches⟩
  rw [routed]
  simp only [route, Task.nextMove, Task.afterFailure, found]
  cases target with
  | none => rfl
  | some name =>
    simp only [Move.along, take]
    cases run.graph.get? name with
    | none => rfl
    | some next => rfl

section Equals

variable {engine : Engine φ} {graph other : TaskGraph φ} {input : Value} {context : Context}

theorem Confined.agrees_or_disputed {run : Run φ} (confined : Confined graph run)
    (related : other.Related (fun twin task => twin.Equals engine task) graph) :
    run.Agrees engine other ∨ run.Disputed engine other := by
  obtain rfl := confined.same
  by_cases disputed : run.Disputed engine other
  · exact .inr disputed
  · refine .inl (.of_related confined related (·.step) ?_)
    intro task outcome phase taken equals
    apply equals.routes
    rintro error rfl
    apply (equals.catchFor?_or_disputes error).resolve_right
    rintro ⟨pattern, twinPattern, disputes⟩
    exact disputed ⟨task, error, pattern, twinPattern, phase, taken, disputes⟩

theorem Engine.partsAt_of_disputed {turn : Nat}
    (related : other.Related (fun twin task => twin.Equals engine task) graph)
    (same : engine.run turn other input context =
      (engine.run turn graph input context).recast other)
    (disputed : (engine.run turn graph input context).Disputed engine other) :
    ∃ task twin error pattern twinPattern,
      engine.PartsAt graph other input context turn task twin error pattern twinPattern := by
  obtain ⟨task, error, pattern, twinPattern, phase, taken, disputes⟩ := disputed
  have known := (engine.confined graph input context turn).known task (Run.task?_of_reporting phase)
  have twinPhase : (engine.run turn other input context).phase =
      .reporting (other.namesake task) (.failure error) := by
    rw [same, Run.recast, phase]
    rfl
  obtain ⟨_, ⟨_, _, catches⟩, ⟨_, _, twinCatches⟩⟩ := id disputes
  refine ⟨task, other.namesake task, error, pattern, twinPattern, known, ?_, phase, disputes, ?_, ?_⟩
  · rw [related.get?_eq, known, Option.map_some]
  · rw [engine.run_succ]
    exact Run.held_of_catches phase taken catches
  · rw [engine.run_succ]
    exact Run.held_of_catches twinPhase taken twinCatches

/-- Runs of equal graphs part over a failure that they catch behind different patterns, or never. -/
theorem Engine.recast_or_parts
    (related : other.Related (fun twin task => twin.Equals engine task) graph) (turns : Nat) :
    engine.run turns other input context =
        (engine.run turns graph input context).recast other ∨
      ∃ turn < turns,
        engine.run turn other input context =
          (engine.run turn graph input context).recast other ∧
        ∃ task twin error pattern twinPattern,
          engine.PartsAt graph other input context turn task twin error pattern twinPattern := by
  have each := fun turn =>
    (engine.confined graph input context turn).agrees_or_disputed related
  rcases recast_or_breaks (Run.Disputed engine other) each turns with
    same | ⟨turn, sooner, same, disputed⟩
  · exact .inl same
  · exact .inr ⟨turn, sooner, same, partsAt_of_disputed related same disputed⟩

end Equals

/-- Runs of equal graphs are one run, up to a failure for which the graphs declare different first
matches. From there on each goes its own way, so graphs that declare the catch entries of their
activities in one order run alike to the end. -/
theorem equal_graphs_part_over_catch_order [BEq φ] (engine : Engine φ)
    (steps : ∀ step twin : φ, (step == twin) = true → engine.steps twin = engine.steps step)
    {graph other : TaskGraph φ} (equal : graph.equivalent other = true) (input : Value)
    (context : Context) (turns : Nat) :
    (engine.run turns other input context =
        (engine.run turns graph input context).recast other ∨
      ∃ turn < turns,
        engine.run turn other input context =
          (engine.run turn graph input context).recast other ∧
        ∃ task twin error pattern twinPattern,
          engine.PartsAt graph other input context turn task twin error pattern twinPattern) ∧
    (other.catchPatterns = graph.catchPatterns →
      engine.run turns other input context =
        (engine.run turns graph input context).recast other) := by
  have related := TaskGraph.related_of_equivalent steps equal
  have parts := @Engine.recast_or_parts _ engine graph other input context related turns
  refine ⟨parts, fun ordered => parts.resolve_right ?_⟩
  rintro ⟨turn, _, _, task, twin, error, pattern, twinPattern, parted⟩
  have patterns := (related.and_map ordered).namesake parted.known
  rw [TaskGraph.namesake_of_get? parted.twinKnown] at patterns
  exact parted.disputes.patterns_ne patterns.2

def Retry.table : Engine Nat where
  steps
    | 0 => recover.step
    | 1 => fetch.step
    | _ => check.step
  deadline := none
  bus := some .recording

def Retry.declared (catches branches : List (String × Pointer)) : TaskGraph Nat :=
  .ofList [⟨"recover", 0, .activity (some "fetch") none, false⟩,
    ⟨"fetch", 1, .activity (some "check") (some (.ofList catches)), true⟩,
    ⟨"check", 2, .choice (.ofList branches), false⟩]

def Retry.patient : TaskGraph Nat :=
  declared [("*Timeout*", some "recover"), ("*", none)] [("found", none), ("lost", none)]

def Retry.branchesSwapped : TaskGraph Nat :=
  declared [("*Timeout*", some "recover"), ("*", none)] [("lost", none), ("found", none)]

def Retry.catchesSwapped : TaskGraph Nat :=
  declared [("*", none), ("*Timeout*", some "recover")] [("found", none), ("lost", none)]

theorem retry_equal_graphs_part_over_catch_order :
    Retry.patient.equivalent Retry.branchesSwapped = true ∧
      Retry.branchesSwapped.catchPatterns = Retry.patient.catchPatterns ∧
      (Retry.table.run 14 Retry.patient .null (Retry.reply "found")).ending? =
        some (.returned Retry.found) ∧
      Retry.table.run 14 Retry.branchesSwapped .null (Retry.reply "found") =
        (Retry.table.run 14 Retry.patient .null (Retry.reply "found")).recast
          Retry.branchesSwapped := by
  have steps : ∀ step twin : Nat, (step == twin) = true →
      Retry.table.steps twin = Retry.table.steps step := by
    intro step twin same
    rw [beq_iff_eq.mp same]
  have equal : Retry.patient.equivalent Retry.branchesSwapped = true := rfl
  have patterns : Retry.branchesSwapped.catchPatterns = Retry.patient.catchPatterns := rfl
  refine ⟨equal, patterns, rfl, ?_⟩
  exact (equal_graphs_part_over_catch_order Retry.table steps equal .null
    (Retry.reply "found") 14).2 patterns

/-- The entry for every failure, tried first, leaves nothing to recover from. -/
theorem retry_equal_graphs_differ :
    Retry.patient.equivalent Retry.catchesSwapped = true ∧
      (Retry.table.run 14 Retry.patient .null (Retry.reply "found")).ending? =
        some (.returned Retry.found) ∧
      (Retry.table.run 14 Retry.catchesSwapped .null (Retry.reply "found")).ending? =
        some (.returned ⟨true,
          [.entry "fetch" .null, .exit "fetch" "*" (.caught "*" Fault.timeout.toValue)],
          .caught "*" Fault.timeout.toValue, Retry.reply "found"⟩) ∧
      .caught "*" Fault.timeout.toValue ≠ Retry.found.output := by
  refine ⟨rfl, rfl, rfl, ?_⟩
  rintro ⟨⟩

end Flowtrace
