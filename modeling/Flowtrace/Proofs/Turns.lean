import Flowtrace.Proofs.Journey

/-! Turns of a run. Each turn keeps the run on a journey through its graph, and a run that ends
has either come to the conclusion of its journey or been cut short by its bus. The calls of a run
are read off its phases, so that what the journey says of them is said of the run itself. -/

namespace Flowtrace

variable {φ : Type}

namespace Engine

def refusal? (engine : Engine φ) (kind : EventKind) : Option Fault :=
  match engine.bus with
  | none => none
  | some bus => if bus.listens then (bus.refusal kind).map Fault.awaited else none

def Unhindered (engine : Engine φ) : Prop := ∀ kind, engine.refusal? kind = none

def told (engine : Engine φ) (event : Event) : List Event :=
  match engine.bus with
  | none => []
  | some bus => if bus.listens then [event] else []

/-- A fault that the bus raised and that the run only passes on. -/
def Interrupts (engine : Engine φ) (error : Raised φ) : Prop :=
  ∃ kind fault, engine.refusal? kind = some fault ∧ error = .bare fault

theorem Unhindered.not_interrupts {engine : Engine φ} (unhindered : engine.Unhindered)
    (error : Raised φ) : ¬ engine.Interrupts error := by
  rintro ⟨kind, fault, refused, _⟩
  exact absurd refused (by simp [unhindered kind])

end Engine

namespace Run

def visit? (run : Run φ) : Option (Visit φ) :=
  match run.phase with
  | .calling task => some ⟨task, run.payload, run.context⟩
  | _ => none

/-- The run only passes on a fault that it has not raised itself. -/
def Cut (run : Run φ) : Prop :=
  ∃ fault, run.phase = .failing (.bare fault) ∨ run.phase = .ended (.raised (.bare fault))

def visitsWithin (engine : Engine φ) : Nat → Run φ → List (Visit φ)
  | 0, _ => []
  | turns + 1, run => run.visit?.toList ++ visitsWithin engine turns (run.advance engine)

theorem phase_of_ended {run : Run φ} {ending : Ending φ} (ended : run.ending? = some ending) :
    run.phase = .ended ending := by
  unfold ending? at ended
  split at ended
  · rename_i reached phase
    cases ended
    exact phase
  · cases ended

theorem phase_of_visit? {run : Run φ} {visit : Visit φ} (calls : run.visit? = some visit) :
    run.phase = .calling visit.task := by
  unfold visit? at calls
  split at calls
  · rename_i task phase
    cases calls
    exact phase
  · cases calls

theorem announce_eq (engine : Engine φ) (event : Event) (next : Run φ → Run φ) (run : Run φ) :
    run.announce engine event next =
      match engine.refusal? event.kind with
      | none => next { run with events := run.events ++ engine.told event }
      | some fault =>
        Run.interrupt { run with events := run.events ++ engine.told event } fault := by
  unfold announce Engine.refusal? Engine.told
  cases engine.bus with
  | none => simp
  | some bus =>
    cases listening : bus.listens with
    | false => simp [listening]
    | true => cases refused : bus.refusal event.kind <;> simp [listening, refused]

theorem interrupt_transitions (run : Run φ) (fault : Fault) :
    (run.interrupt fault).transitions = run.transitions := by
  unfold interrupt
  split
  · rfl
  · rfl
  · split <;> rfl

theorem announce_transitions {engine : Engine φ} {event : Event} {next : Run φ → Run φ}
    {run : Run φ} {before : List Transition} (same : run.transitions = before)
    (taken : ∀ events, before <+: (next { run with events }).transitions) :
    before <+: (run.announce engine event next).transitions := by
  rw [announce_eq]
  split
  · exact taken _
  · simp only [interrupt_transitions, same, List.prefix_refl]

theorem cut_interrupt (run : Run φ) (fault : Fault) : (run.interrupt fault).Cut := by
  unfold interrupt
  split
  · exact ⟨fault, .inr rfl⟩
  · exact ⟨fault, .inr rfl⟩
  · split
    · exact ⟨fault, .inl rfl⟩
    · exact ⟨fault, .inr rfl⟩

theorem cut_announce {engine : Engine φ} {event : Event} {next : Run φ → Run φ} {run : Run φ}
    {fault : Fault} (refused : engine.refusal? event.kind = some fault) :
    (run.announce engine event next).Cut := by
  rw [announce_eq, refused]
  exact cut_interrupt _ fault

theorem route_transitions (run : Run φ) (task : Task φ) (outcome : Outcome) :
    run.transitions <+: (run.route task outcome).transitions := by
  unfold route
  cases task.nextMove run.payload outcome with
  | follow edge target produced carried =>
    simp only [take]
    split
    · exact List.prefix_append _ _
    · exact List.prefix_refl _
  | leave edge output => exact List.prefix_append _ _
  | refuse fault output chained => exact List.prefix_refl _

theorem advance_transitions (engine : Engine φ) (run : Run φ) :
    run.transitions <+: (run.advance engine).transitions := by
  unfold advance
  split
  · split
    · exact List.prefix_refl _
    · exact announce_transitions rfl fun _ => List.prefix_append _ _
  · exact announce_transitions rfl fun _ => List.prefix_refl _
  · simp only [call]
    split <;> exact List.prefix_refl _
  · rename_i task outcome _
    exact announce_transitions rfl fun events =>
      route_transitions { run.note (outcomeNote task outcome) with events } task outcome
  · exact announce_transitions rfl fun _ => List.prefix_refl _
  · exact announce_transitions rfl fun _ => List.prefix_refl _
  · exact List.prefix_refl _
  · exact List.prefix_refl _

theorem advance_of_visit? {engine : Engine φ} {run : Run φ} {visit : Visit φ} {outcome : Outcome}
    (calls : run.visit? = some visit) (settled : visit.conclusion engine = .settled outcome) :
    run.advance engine =
      { run with
        context := visit.left engine
        notes := run.notes ++ (visit.behaviour engine).notes
        phase := .reporting visit.task outcome } ∧ run.payload = visit.payload := by
  unfold visit? at calls
  split at calls
  · rename_i task phase
    cases calls
    refine ⟨?_, rfl⟩
    simp only [Visit.conclusion, Visit.behaviour] at settled
    simp only [advance, phase, call, settled]
    rfl
  · cases calls

theorem advance_of_reporting {engine : Engine φ} {run : Run φ} {task : Task φ} {outcome : Outcome}
    (phase : run.phase = .reporting task outcome)
    (taken : engine.refusal? (outcomeEvent task outcome).kind = none) :
    ∃ notes events, run.advance engine = route { run with notes, events } task outcome := by
  simp only [advance, phase, announce_eq, taken]
  exact ⟨_, _, rfl⟩

theorem advance_of_failing {engine : Engine φ} {run : Run φ} {error : Raised φ}
    (phase : run.phase = .failing error)
    (taken : engine.refusal? .workflowFailed = none) :
    (run.advance engine).ending? = some (.raised error) := by
  have kind : (Event.workflowFailed error.fault.message error.fault.className run.current).kind =
      .workflowFailed := rfl
  simp only [advance, phase, announce_eq, kind, taken]
  rfl

theorem advance_of_ended (engine : Engine φ) {run : Run φ} {ending : Ending φ}
    (ended : run.phase = .ended ending) : run.advance engine = run := by
  simp [advance, ended]

theorem Cut.advance {run : Run φ} (cut : run.Cut) (engine : Engine φ) :
    (run.advance engine).Cut := by
  obtain ⟨fault, failing | ended⟩ := cut
  · simp only [Run.advance, failing, announce_eq]
    split
    · exact ⟨fault, .inr rfl⟩
    · exact cut_interrupt _ _
  · rw [advance_of_ended engine ended]
    exact ⟨fault, .inr ended⟩

theorem advanceBy_succ (engine : Engine φ) (turns : Nat) (run : Run φ) :
    run.advanceBy engine (turns + 1) = (run.advance engine).advanceBy engine turns := by
  cases phase : run.phase with
  | ended ending =>
    have still : ∀ turns, run.advanceBy engine turns = run := by
      intro turns
      cases turns <;> simp [advanceBy, phase]
    rw [advance_of_ended engine phase, still, still]
  | _ => simp [advanceBy, phase]

theorem advanceBy_add (engine : Engine φ) (first second : Nat) (run : Run φ) :
    run.advanceBy engine (first + second) =
      (run.advanceBy engine first).advanceBy engine second := by
  induction first generalizing run with
  | zero => simp [advanceBy]
  | succ first ih => rw [Nat.succ_add, advanceBy_succ, ih, ← advanceBy_succ]

theorem advance_advanceBy (engine : Engine φ) (turns : Nat) (run : Run φ) :
    (run.advanceBy engine turns).advance engine = run.advanceBy engine (turns + 1) := by
  rw [advanceBy_add, advanceBy_succ]
  rfl

theorem visitsWithin_add (engine : Engine φ) (first second : Nat) (run : Run φ) :
    run.visitsWithin engine (first + second) =
      run.visitsWithin engine first ++
        (run.advanceBy engine first).visitsWithin engine second := by
  induction first generalizing run with
  | zero => simp [visitsWithin, advanceBy]
  | succ first ih =>
    rw [Nat.succ_add, visitsWithin, ih, visitsWithin, advanceBy_succ, List.append_assoc]

end Run

namespace Engine

def visits (engine : Engine φ) (turns : Nat) (graph : TaskGraph φ) (input : Value)
    (context : Context) : List (Visit φ) :=
  (Run.start graph input context).visitsWithin engine turns

variable (engine : Engine φ) (graph : TaskGraph φ) (input : Value) (context : Context)

theorem run_succ (turns : Nat) :
    engine.run (turns + 1) graph input context =
      (engine.run turns graph input context).advance engine :=
  (Run.advance_advanceBy engine turns _).symm

theorem visits_succ (turns : Nat) :
    engine.visits (turns + 1) graph input context =
      engine.visits turns graph input context ++
        (engine.run turns graph input context).visit?.toList := by
  rw [visits, Run.visitsWithin_add]
  simp [visits, Run.visitsWithin, Engine.run]

theorem transitions_prefix {earlier later : Nat} (sooner : earlier ≤ later) :
    (engine.run earlier graph input context).transitions <+:
      (engine.run later graph input context).transitions := by
  obtain ⟨spare, rfl⟩ := Nat.exists_eq_add_of_le sooner
  induction spare with
  | zero => exact List.prefix_refl _
  | succ spare ih =>
    rw [← Nat.add_assoc, run_succ]
    exact (ih (Nat.le_add_right _ _)).trans (Run.advance_transitions engine _)

theorem run_of_ended {earlier later : Nat} (sooner : earlier ≤ later) {ending : Ending φ}
    (ended : (engine.run earlier graph input context).ending? = some ending) :
    engine.run later graph input context = engine.run earlier graph input context := by
  have phase := Run.phase_of_ended ended
  obtain ⟨spare, rfl⟩ := Nat.exists_eq_add_of_le sooner
  induction spare with
  | zero => rfl
  | succ spare ih =>
    rw [← Nat.add_assoc, run_succ, ih (Nat.le_add_right _ _), Run.advance_of_ended engine phase]

theorem visits_of_ended {earlier later : Nat} (sooner : earlier ≤ later)
    {ending : Ending φ}
    (ended : (engine.run earlier graph input context).ending? = some ending) :
    engine.visits later graph input context = engine.visits earlier graph input context := by
  obtain ⟨spare, rfl⟩ := Nat.exists_eq_add_of_le sooner
  induction spare with
  | zero => rfl
  | succ spare ih =>
    have still := engine.run_of_ended graph input context (Nat.le_add_right earlier spare) ended
    have silent : (engine.run earlier graph input context).visit? = none := by
      simp only [Run.visit?, Run.phase_of_ended ended]
    rw [← Nat.add_assoc, visits_succ, ih (Nat.le_add_right _ _), still, silent]
    simp

/-- Whatever cuts a run short in one turn, the run ends without a report. -/
theorem unreported_of_cut {turn turns : Nat} {ending : Ending φ}
    (going : (engine.run turn graph input context).ending? = none)
    (cut : (engine.run (turn + 1) graph input context).Cut)
    (ended : (engine.run turns graph input context).ending? = some ending) :
    ending.result? = none := by
  -- The run cannot have ended before it was cut short, and it stays cut short afterwards.
  rcases Nat.lt_or_ge turn turns with later | sooner
  · obtain ⟨spare, rfl⟩ := Nat.exists_eq_add_of_le (show turn + 1 ≤ turns from later)
    have still : (engine.run (turn + 1 + spare) graph input context).Cut := by
      clear ended
      induction spare with
      | zero => exact cut
      | succ spare ih =>
        rw [← Nat.add_assoc, run_succ]
        exact (ih (by omega)).advance engine
    obtain ⟨fault, failing | stopped⟩ := still
    · simp [Run.ending?, failing] at ended
    · simp only [Run.ending?, stopped, Option.some.injEq] at ended
      exact ended ▸ rfl
  · rw [engine.run_of_ended graph input context sooner ended, ended] at going
    cases going

end Engine

/-- What the phase of a run says about its calls so far. A stalled run says nothing: it makes no
further call. -/
def Accounts (engine : Engine φ) (graph : TaskGraph φ) (input : Value) (context : Context)
    (visits : List (Visit φ)) (run : Run φ) : Phase φ → Prop
  | .starting =>
    visits = [] ∧ run.payload = input ∧ run.context = context ∧ run.transitions = []
  | .entering task | .calling task =>
    Journey engine graph input context visits run.transitions ⟨task, run.payload, run.context⟩
  | .reporting task outcome =>
    ∃ earlier visit, visits = earlier ++ [visit] ∧
      Journey engine graph input context earlier run.transitions visit ∧
      visit.conclusion engine = .settled outcome ∧ visit.task = task ∧
      run.payload = visit.payload ∧ run.context = visit.left engine
  | .failing error =>
    Concludes engine graph input context visits (.raised error) ∨ engine.Interrupts error
  | .completing => Concludes engine graph input context visits (.returned run.fullResult)
  | .stalled => True
  | .ended ending =>
    Concludes engine graph input context visits ending ∨
      ∃ error, ending = .raised error ∧ engine.Interrupts error

structure Standing (engine : Engine φ) (graph : TaskGraph φ) (input : Value) (context : Context)
    (visits : List (Visit φ)) (run : Run φ) : Prop where
  same : run.graph = graph
  accounts : Accounts engine graph input context visits run run.phase

section Standing

variable {engine : Engine φ} {graph : TaskGraph φ} {input : Value} {context : Context}
  {visits : List (Visit φ)} {run : Run φ}

theorem Standing.interrupt {kind : EventKind} {fault : Fault} (same : run.graph = graph)
    (refused : engine.refusal? kind = some fault) :
    Standing engine graph input context visits (run.interrupt fault) := by
  have interrupts : engine.Interrupts (.bare fault) := ⟨kind, fault, refused, rfl⟩
  unfold Run.interrupt
  split
  · exact ⟨same, .inr ⟨_, rfl, interrupts⟩⟩
  · exact ⟨same, .inr ⟨_, rfl, interrupts⟩⟩
  · split
    · exact ⟨same, .inr interrupts⟩
    · exact ⟨same, .inr ⟨_, rfl, interrupts⟩⟩

/-- Whatever the bus makes of an event, the run stands if it stands once the event is taken. -/
theorem Standing.announce {event : Event} {next : Run φ → Run φ} (same : run.graph = graph)
    (taken : ∀ events, Standing engine graph input context visits (next { run with events })) :
    Standing engine graph input context visits (run.announce engine event next) := by
  rw [Run.announce_eq]
  split
  · exact taken _
  · rename_i fault refused
    exact Standing.interrupt same refused

/-- Routing a settled call moves the journey on by one transition or brings it to its
conclusion. -/
theorem Standing.route {visit : Visit φ} {outcome : Outcome} (same : run.graph = graph)
    (journey : Journey engine graph input context visits run.transitions visit)
    (settled : visit.conclusion engine = .settled outcome)
    (payload : run.payload = visit.payload) (left : run.context = visit.left engine) :
    Standing engine graph input context (visits ++ [visit]) (run.route visit.task outcome) := by
  subst same
  unfold Run.route
  rw [payload]
  rcases visit.task.nextMove_cases visit.payload outcome with
    ⟨edge, selects, moved⟩ | ⟨fault, output, chained, refuses, moved⟩
  · rw [moved]
    cases onward : edge.target with
    | none =>
      have arrived := Concludes.arrived journey settled selects onward
      refine ⟨rfl, ?_⟩
      simpa [Move.along, Run.take, Run.leave, Accounts, Run.fullResult, Visit.departure, onward,
        left] using arrived
    | some target =>
      cases found : run.graph.get? target with
      | none =>
        have dangling := Concludes.dangling journey settled selects onward found
        simp only [Move.along, Run.take, found, Run.failWith, Run.partialResult, left]
        exact ⟨rfl, .inl dangling⟩
      | some next =>
        have moves := Journey.onward journey settled selects onward found
        have name := (TaskGraph.mem_of_get? found).2
        simp only [Move.along, Run.take, found, Run.enter]
        refine ⟨rfl, ?_⟩
        simpa [Accounts, Visit.departure, onward, Visit.carried, name, left, Transition.move]
          using moves
  · have refused := Concludes.refused journey settled refuses
    simp only [moved, Run.take, Run.failWith, Run.partialResult, left]
    exact ⟨rfl, .inl refused⟩

theorem Standing.call {task : Task φ} (same : run.graph = graph)
    (journey : Journey engine graph input context visits run.transitions
      ⟨task, run.payload, run.context⟩) :
    Standing engine graph input context (visits ++ [⟨task, run.payload, run.context⟩])
      (run.call engine task) := by
  simp only [Run.call]
  split
  · rename_i outcome settled
    exact ⟨same, _, _, rfl, journey, settled, rfl, rfl, rfl⟩
  · rename_i fault escaped
    exact ⟨same, .inl (.escaped journey escaped)⟩
  · exact ⟨same, trivial⟩

/-- Every turn keeps the invariant, whatever the bus does. -/
theorem Standing.advance (standing : Standing engine graph input context visits run) :
    Standing engine graph input context (visits ++ run.visit?.toList) (run.advance engine) := by
  obtain ⟨same, accounts⟩ := standing
  -- In one phase alone a step is called; in every other phase the calls stay as they are.
  cases phase : run.phase with
  | starting =>
    simp only [phase, Accounts] at accounts
    obtain ⟨rfl, payload, left, empty⟩ := accounts
    simp only [Run.advance, Run.visit?, phase, Option.toList, List.append_nil]
    split
    · rename_i missing
      have nothing : graph.tasks = [] := TaskGraph.startTask?_eq_none.mp (same ▸ missing)
      have concludes : Concludes engine graph input context [] _ := .empty nothing
      refine ⟨same, .inl ?_⟩
      simpa [Run.partialResult, same, payload, left, empty] using concludes
    · rename_i task start
      refine Standing.announce same fun events => ⟨same, ?_⟩
      have entry : Journey engine graph input context [] _ _ := .entry (same ▸ start)
      simpa [Run.enter, Run.note, Accounts, payload, left, empty, Transition.entry] using entry
  | entering task =>
    simp only [phase, Accounts] at accounts
    simp only [Run.advance, Run.visit?, phase, Option.toList, List.append_nil]
    exact Standing.announce same fun events => ⟨same, accounts⟩
  | calling task =>
    simp only [phase, Accounts] at accounts
    simp only [Run.advance, Run.visit?, phase, Option.toList]
    exact Standing.call same accounts
  | reporting task outcome =>
    simp only [phase, Accounts] at accounts
    obtain ⟨earlier, visit, rfl, journey, settled, rfl, payload, left⟩ := accounts
    simp only [Run.advance, Run.visit?, phase, Option.toList, List.append_nil]
    exact Standing.announce same fun events => Standing.route same journey settled payload left
  | failing error =>
    simp only [phase, Accounts] at accounts
    simp only [Run.advance, Run.visit?, phase, Option.toList, List.append_nil]
    exact Standing.announce same fun events =>
      ⟨same, accounts.imp id fun interrupts => ⟨_, rfl, interrupts⟩⟩
  | completing =>
    simp only [phase, Accounts] at accounts
    simp only [Run.advance, Run.visit?, phase, Option.toList, List.append_nil]
    exact Standing.announce same fun events => ⟨same, .inl accounts⟩
  | stalled =>
    simp only [Run.advance, Run.visit?, phase, Option.toList, List.append_nil]
    exact ⟨same, by simp [phase, Accounts]⟩
  | ended ending =>
    simp only [Run.advance, Run.visit?, phase, Option.toList, List.append_nil]
    exact ⟨same, accounts⟩

end Standing

theorem Engine.standing (engine : Engine φ) (graph : TaskGraph φ) (input : Value)
    (context : Context) (turns : Nat) :
    Standing engine graph input context (engine.visits turns graph input context)
      (engine.run turns graph input context) := by
  induction turns with
  | zero => exact ⟨rfl, rfl, rfl, rfl, rfl⟩
  | succ turns ih =>
    rw [engine.visits_succ, engine.run_succ]
    exact ih.advance

namespace Engine

variable {engine : Engine φ} {graph : TaskGraph φ} {input : Value} {context : Context}
  {turns : Nat} {ending : Ending φ}

/-- An ended run has come to the conclusion of its journey, unless its bus cut it short. -/
theorem concludes_or_interrupts
    (ended : (engine.run turns graph input context).ending? = some ending) :
    Concludes engine graph input context (engine.visits turns graph input context) ending ∨
      ∃ error, ending = .raised error ∧ engine.Interrupts error := by
  have accounts := (engine.standing graph input context turns).accounts
  rw [Run.phase_of_ended ended] at accounts
  exact accounts

theorem concludes_of_unhindered (unhindered : engine.Unhindered)
    (ended : (engine.run turns graph input context).ending? = some ending) :
    Concludes engine graph input context (engine.visits turns graph input context) ending := by
  rcases concludes_or_interrupts ended with concludes | ⟨error, _, interrupts⟩
  · exact concludes
  · exact absurd interrupts (unhindered.not_interrupts error)

theorem concludes_of_reported {result : RunResult}
    (ended : (engine.run turns graph input context).ending? = some ending)
    (reported : ending.result? = some result) :
    Concludes engine graph input context (engine.visits turns graph input context) ending := by
  rcases concludes_or_interrupts ended with concludes | ⟨error, rfl, kind, fault, _, rfl⟩
  · exact concludes
  · cases reported

variable {position : Nat} {visit : Visit φ}

/-- A call is made in a turn of its own, after the calls before it. -/
theorem turn_of_visit
    (made : (engine.visits turns graph input context)[position]? = some visit) :
    ∃ turn, turn < turns ∧ (engine.run turn graph input context).visit? = some visit ∧
      engine.visits turn graph input context =
        (engine.visits turns graph input context).take position := by
  induction turns with
  | zero => simp [Engine.visits, Run.visitsWithin] at made
  | succ turns ih =>
    rw [visits_succ] at made ⊢
    have earlier : (engine.visits turns graph input context)[position]? = some visit →
        ∃ turn, turn < turns + 1 ∧ (engine.run turn graph input context).visit? = some visit ∧
          engine.visits turn graph input context =
            (engine.visits turns graph input context ++
              (engine.run turns graph input context).visit?.toList).take position := by
      intro found
      obtain ⟨turn, before, calls, same⟩ := ih found
      have inside := (List.getElem?_eq_some_iff.mp found).1
      refine ⟨turn, by omega, calls, ?_⟩
      rw [same, List.take_append_of_le_length (Nat.le_of_lt inside)]
    cases calls : (engine.run turns graph input context).visit? with
    | none =>
      rw [calls] at made earlier
      exact earlier (by simpa using made)
    | some newest =>
      rw [calls] at made earlier
      rcases getElem?_concat_cases made with found | ⟨rfl, rfl⟩
      · exact earlier found
      · exact ⟨turns, by omega, calls, by simp⟩

theorem journey_of_visit? (calls : (engine.run turns graph input context).visit? = some visit) :
    Journey engine graph input context (engine.visits turns graph input context)
      (engine.run turns graph input context).transitions visit := by
  have accounts := (engine.standing graph input context turns).accounts
  unfold Run.visit? at calls
  split at calls
  · rename_i task phase
    cases calls
    rw [phase] at accounts
    exact accounts
  · cases calls

theorem journey_of_visit
    (made : (engine.visits turns graph input context)[position]? = some visit) :
    ∃ history, Journey engine graph input context
      ((engine.visits turns graph input context).take position) history visit := by
  obtain ⟨turn, before, calls, same⟩ := turn_of_visit made
  exact ⟨_, same ▸ journey_of_visit? calls⟩

theorem leadsTo_of_visits {next : Visit φ}
    (made : (engine.visits turns graph input context)[position]? = some visit)
    (later : (engine.visits turns graph input context)[position + 1]? = some next) :
    ∃ outcome edge, visit.LeadsTo engine outcome edge next := by
  obtain ⟨history, journey⟩ := journey_of_visit later
  have upto : (engine.visits turns graph input context).take (position + 1) ++ [next] =
      (engine.visits turns graph input context).take (position + 1 + 1) := by
    rw [List.take_add_one (i := position + 1), later]
    rfl
  have called : ((engine.visits turns graph input context).take (position + 1) ++
      [next])[position + 1]? = some next := by
    rw [upto, List.getElem?_take_of_lt (by omega), later]
  obtain ⟨prior, outcome, edge, before, leads, _⟩ := journey.leg called
  rw [upto, List.getElem?_take_of_lt (by omega), made] at before
  obtain rfl := Option.some.inj before
  exact ⟨outcome, edge, leads⟩

end Engine

/-! A workflow that fails once, recovers and checks what it has found. Runs of it that end in
different ways stand beside the general results. -/

namespace Retry

def fetch : Task Step where
  name := "fetch"
  step := ⟨.awaited, fun payload context =>
    match context.get? "recovered" with
    | some _ => ⟨.returned payload, context, []⟩
    | none => ⟨.raised .timeout, context, []⟩⟩
  routing := .activity (some "check") (some (.ofList [("*Timeout*", some "recover")]))
  start := true

def recover : Task Step where
  name := "recover"
  step := ⟨.awaited, fun _ context =>
    ⟨.returned ((context.get? "reply").getD .null), context.set "recovered" (.bool true), []⟩⟩
  routing := .activity (some "fetch") none
  start := false

def check : Task Step where
  name := "check"
  step := ⟨.direct, fun payload context => ⟨.returned payload, context, []⟩⟩
  routing := .choice (.ofList [("found", none), ("lost", some "search")])
  start := false

/-- No task is named as the one that searches. -/
def graph : TaskGraph Step := .ofList [recover, fetch, check]

def engine : Engine Step := ⟨id, none, some .recording⟩

def reply (text : String) : Context := [(.text "reply", .text text)]

theorem unhindered : engine.Unhindered := fun _ => rfl

def found : RunResult where
  success := true
  transitions :=
    [.entry "fetch" .null,
      .move "fetch" "*Timeout*" "recover" (.caught "*Timeout*" Fault.timeout.toValue),
      .move "recover" "then" "fetch" (.text "found"),
      .move "fetch" "then" "check" (.text "found"),
      .exit "check" "found" (.text "found")]
  output := .text "found"
  context := [(.text "reply", .text "found"), (.text "recovered", .bool true)]

end Retry

end Flowtrace
