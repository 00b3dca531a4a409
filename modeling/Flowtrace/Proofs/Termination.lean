import Mathlib.Data.List.Nodup
import Mathlib.Logic.Relation
import Flowtrace.Proofs.LintSoundness
import Flowtrace.Proofs.Proceeding

/-! Why runs end. Nothing bounds the turns of a run but its graph: whatever the steps and the bus
do, each task is entered along an edge from the task before it. So a run that enters more tasks
than there are has followed a cycle, and where no cycle can be reached a run whose steps all settle
has ended once every task has had its three turns. -/

namespace Flowtrace

variable {φ : Type}

def Transition.LeadsTo (graph : TaskGraph φ) (before after : Transition) : Prop :=
  ∃ edge ∈ graph.edges, before.destination = some edge.source ∧
    after.source = some edge.source ∧ after.edge = some edge.label ∧
    after.destination = edge.target

namespace TaskGraph

def Leads (graph : TaskGraph φ) (source target : String) : Prop :=
  ∃ edge ∈ graph.edges, edge.source = source ∧ edge.target = some target

/-- No path of edges that begins at the start task comes to a cycle. -/
def Acyclic (graph : TaskGraph φ) : Prop :=
  ∀ start, graph.startTask? = some start → ∀ name,
    Relation.ReflTransGen graph.Leads start.name name → ¬ Relation.TransGen graph.Leads name name

def EntersAt (transitions : List Transition) (position : Nat) (name : String) : Prop :=
  ∃ transition, transitions[position]? = some transition ∧ transition.destination = some name

/-- The transitions enter a task twice, and follow an edge of the graph at each position between. -/
def FollowsCycle (graph : TaskGraph φ) (transitions : List Transition) : Prop :=
  ∃ first last name, first < last ∧ EntersAt transitions first name ∧
    EntersAt transitions last name ∧
    ∀ position, first ≤ position → position < last →
      ∃ before after, transitions[position]? = some before ∧
        transitions[position + 1]? = some after ∧ before.LeadsTo graph after

end TaskGraph

/-- Every step settles, be it only because its deadline passes. -/
def Engine.Settles (engine : Engine φ) (graph : TaskGraph φ) : Prop :=
  ∀ task ∈ graph.tasks, ∀ payload context,
    (⟨task, payload, context⟩ : Visit φ).conclusion engine ≠ .stalled

theorem Settlement.stalled_of_conclusion {settlement : Settlement}
    (stalls : settlement.conclusion = .stalled) : settlement = .stalled := by
  unfold conclusion at stalls
  split at stalls
  case h_4 => split at stalls <;> cases stalls
  case h_5 => rfl
  all_goals cases stalls

/-- The trace of a run at any of its turns: it begins at the start task and goes on along edges, and
it has come to the task at which the run is. -/
structure Run.Trails (graph : TaskGraph φ) (run : Run φ) : Prop where
  first : ∀ transition, run.transitions[0]? = some transition →
    ∃ start, graph.startTask? = some start ∧ transition.destination = some start.name
  leads : ∀ position before after, run.transitions[position]? = some before →
    run.transitions[position + 1]? = some after → before.LeadsTo graph after
  known : ∀ name ∈ run.entered, name ∈ graph.names
  unstarted : run.phase = .starting → run.transitions = []
  here : ∀ task, run.phase.task? = some task →
    ∃ last, run.transitions.getLast? = some last ∧ last.destination = some task.name

section Trails

variable {engine : Engine φ} {graph : TaskGraph φ} {run next : Run φ}

theorem Run.Trails.aside (trails : run.Trails graph) (kept : next.transitions = run.transitions)
    (begun : next.phase ≠ .starting)
    (here : ∀ task, next.phase.task? = some task → run.phase.task? = some task) :
    next.Trails graph where
  first := by rw [kept]; exact trails.first
  leads := by rw [kept]; exact trails.leads
  known := by simpa only [Run.entered, kept] using trails.known
  unstarted := fun unstarted => absurd unstarted begun
  here := by
    intro task stands
    rw [kept]
    exact trails.here task (here task stands)

/-- A run that records a transition has just started, or the transition leaves the task at which
the run is. -/
theorem Run.Trails.record (trails : run.Trails graph) {transition : Transition}
    (kept : next.transitions = run.transitions ++ [transition]) (begun : next.phase ≠ .starting)
    (first : run.transitions = [] →
      ∃ start, graph.startTask? = some start ∧ transition.destination = some start.name)
    (leads : ∀ last, run.transitions.getLast? = some last → last.LeadsTo graph transition)
    (known : ∀ name, transition.destination = some name → name ∈ graph.names)
    (here : ∀ task, next.phase.task? = some task → transition.destination = some task.name) :
    next.Trails graph where
  first := by
    intro opening found
    rw [kept] at found
    rcases getElem?_concat_cases found with before | ⟨empty, rfl⟩
    · exact trails.first opening before
    · exact first (List.length_eq_zero_iff.mp empty.symm)
  leads := by
    intro position before after found follows
    rw [kept] at found follows
    rcases getElem?_concat_cases follows with earlier | ⟨newest, rfl⟩
    · have inside := (List.getElem?_eq_some_iff.mp earlier).1
      rw [List.getElem?_append_left (by omega)] at found
      exact trails.leads position before after found earlier
    · rw [List.getElem?_append_left (by omega)] at found
      refine leads before ?_
      rw [List.getLast?_eq_getElem?, ← newest]
      exact found
  known := by
    intro name member
    simp only [Run.entered, kept, List.filterMap_append, List.mem_append] at member
    rcases member with before | newest
    · exact trails.known name before
    · exact known name (by simpa using newest)
  unstarted := fun unstarted => absurd unstarted begun
  here := by
    intro task stands
    exact ⟨transition, by simp [kept], here task stands⟩

theorem Run.Trails.depart (trails : run.Trails graph) (confined : Confined graph run)
    {task : Task φ} {edge : Edge} {transition : Transition}
    (stands : run.phase.task? = some task) (member : edge ∈ task.edges)
    (source : transition.source = some task.name) (label : transition.edge = some edge.label)
    (target : transition.destination = edge.target)
    (kept : next.transitions = run.transitions ++ [transition]) (begun : next.phase ≠ .starting)
    (known : ∀ name, transition.destination = some name → name ∈ graph.names)
    (here : ∀ task, next.phase.task? = some task → transition.destination = some task.name) :
    next.Trails graph := by
  obtain ⟨last, newest, enters⟩ := trails.here task stands
  have leaves := Task.source_of_edge member
  have inside := (TaskGraph.mem_of_get? (confined.known task stands)).1
  refine trails.record kept begun ?_ ?_ known here
  · intro empty
    simp [empty] at newest
  · intro other also
    obtain rfl := Option.some.inj (newest.symm.trans also)
    exact ⟨edge, List.mem_flatMap.mpr ⟨task, inside, member⟩, by rw [leaves, enters],
      by rw [leaves, source], label, target⟩

theorem Run.Trails.turned (trails : run.Trails graph) (confined : Confined graph run)
    (turned : Turned engine run next) : next.Trails graph := by
  obtain ⟨_, recorded, proceeds, kept, _⟩ := turned
  generalize phase : next.phase = reached at proceeds
  cases proceeds with
  | @started task before start told =>
    rw [confined.same] at start
    have found := TaskGraph.get?_of_mem (TaskGraph.startTask?_mem start)
    refine trails.record kept (by simp [phase]) (fun _ => ⟨task, start, rfl⟩) ?_ ?_ ?_
    · simp [trails.unstarted before]
    · rintro name ⟨⟩
      exact TaskGraph.name_mem_of_get? found
    · intro entered stands
      rw [phase] at stands
      cases stands
      rfl
  | @moved task outcome edge onto carried before member onward found =>
    rw [confined.same] at found
    refine trails.depart confined (Run.task?_of_reporting before) member rfl rfl onward.symm kept
      (by simp [phase]) ?_ ?_
    · rintro name ⟨⟩
      exact TaskGraph.name_mem_of_get? found
    · intro entered stands
      rw [phase] at stands
      cases stands
      rfl
  | @left task outcome edge output before member last =>
    refine trails.depart confined (Run.task?_of_reporting before) member rfl rfl last.symm kept
      (by simp [phase]) ?_ ?_
    · rintro name ⟨⟩
    · simp [phase, Phase.task?]
  | admitted before | settled before =>
    refine trails.aside (by simpa using kept) (by simp [phase]) ?_
    simp [phase, before, Phase.task?]
  | stalled | failed | ended | waiting =>
    exact trails.aside (by simpa using kept) (by simp [phase]) (by simp [phase, Phase.task?])

theorem Engine.trails (engine : Engine φ) (graph : TaskGraph φ) (input : Value)
    (context : Context) (turns : Nat) : (engine.run turns graph input context).Trails graph := by
  induction turns with
  | zero =>
    exact ⟨by rintro _ ⟨⟩, by rintro _ _ _ ⟨⟩, by rintro _ ⟨⟩, fun _ => rfl, by rintro _ ⟨⟩⟩
  | succ turns ih =>
    rw [engine.run_succ]
    exact ih.turned (engine.confined graph input context turns) (Run.turned_advance engine _)

end Trails

/-- Where only the last item may have no image, images stand at the positions of their items. -/
theorem getElem?_filterMap_of_interior {α β : Type} {image : α → Option β} {items : List α}
    (interior : ∀ position before after, items[position]? = some before →
      items[position + 1]? = some after → (image before).isSome) (position : Nat) :
    (items.filterMap image)[position]? = items[position]?.bind image := by
  induction items generalizing position with
  | nil => simp
  | cons item rest ih =>
    have deeper := ih fun position => interior (position + 1)
    cases found : image item with
    | none =>
      -- An item without an image has nothing after it.
      have last : rest = [] := by
        cases rest with
        | nil => rfl
        | cons after _ => simpa [found] using interior 0 item after rfl rfl
      subst last
      cases position <;> simp [found]
    | some value =>
      rw [List.filterMap_cons_some found]
      cases position with
      | zero => simp [found]
      | succ position => simpa using deeper position

namespace Run.Trails

open TaskGraph

variable {graph : TaskGraph φ} {run : Run φ} {first last : Nat} {name other : String}

theorem entered_at (trails : run.Trails graph) (position : Nat) :
    run.entered[position]? = run.transitions[position]?.bind (·.destination) := by
  refine getElem?_filterMap_of_interior ?_ position
  intro position before after found follows
  obtain ⟨edge, _, enters, _⟩ := trails.leads position before after found follows
  simp [enters]

theorem entersAt_iff (trails : run.Trails graph) (position : Nat) :
    run.entered[position]? = some name ↔ EntersAt run.transitions position name := by
  rw [trails.entered_at, Option.bind_eq_some_iff]
  rfl

theorem length_le (trails : run.Trails graph) :
    run.transitions.length ≤ run.entered.length + 1 := by
  refine Nat.le_of_not_lt fun longer => ?_
  have missing : run.entered[run.entered.length]? = none := List.getElem?_eq_none (Nat.le_refl _)
  obtain ⟨before, found⟩ : ∃ before, run.transitions[run.entered.length]? = some before :=
    ⟨_, List.getElem?_eq_getElem (by omega)⟩
  obtain ⟨after, follows⟩ : ∃ after, run.transitions[run.entered.length + 1]? = some after :=
    ⟨_, List.getElem?_eq_getElem longer⟩
  obtain ⟨edge, _, enters, _⟩ := trails.leads _ before after found follows
  rw [trails.entered_at, found, Option.bind_some, enters] at missing
  cases missing

theorem opens (trails : run.Trails graph) (begun : run.transitions ≠ []) :
    ∃ start, graph.startTask? = some start ∧ EntersAt run.transitions 0 start.name := by
  obtain ⟨opening, rest, opened⟩ := List.exists_cons_of_ne_nil begun
  have found : run.transitions[0]? = some opening := by rw [opened]; rfl
  obtain ⟨start, starts, enters⟩ := trails.first opening found
  exact ⟨start, starts, opening, found, enters⟩

/-- From every task that a run has entered a path of edges leads to each one entered later. -/
theorem path (trails : run.Trails graph) (sooner : first < last)
    (leaves : EntersAt run.transitions first name) (enters : EntersAt run.transitions last other) :
    Relation.TransGen graph.Leads name other := by
  obtain ⟨spare, rfl⟩ := Nat.exists_eq_add_of_lt sooner
  induction spare generalizing other with
  | zero =>
    obtain ⟨before, found, here⟩ := leaves
    obtain ⟨after, follows, there⟩ := enters
    obtain ⟨edge, member, source, _, _, target⟩ := trails.leads _ before after found follows
    refine .single ⟨edge, member, ?_, target.symm.trans there⟩
    exact Option.some.inj (source.symm.trans here)
  | succ spare ih =>
    obtain ⟨after, follows, there⟩ := enters
    have inside := (List.getElem?_eq_some_iff.mp follows).1
    obtain ⟨before, found⟩ : ∃ before, run.transitions[first + spare + 1]? = some before :=
      ⟨_, List.getElem?_eq_getElem (by omega)⟩
    obtain ⟨edge, member, source, _, _, target⟩ := trails.leads _ before after found follows
    refine .tail (ih (by omega) ⟨before, found, source⟩) ⟨edge, member, rfl, ?_⟩
    exact target.symm.trans there

theorem followsCycle_of_repeat (trails : run.Trails graph) (again : ¬ run.entered.Nodup) :
    graph.FollowsCycle run.transitions := by
  rw [List.nodup_iff_getElem?_ne_getElem?] at again
  push Not at again
  obtain ⟨first, last, sooner, inside, same⟩ := again
  rw [List.getElem?_eq_getElem inside] at same
  refine ⟨first, last, _, sooner, (trails.entersAt_iff first).mp same,
    (trails.entersAt_iff last).mp (List.getElem?_eq_getElem inside), ?_⟩
  intro position _ later
  have longer : run.entered.length ≤ run.transitions.length := List.length_filterMap_le _ _
  refine ⟨_, _, List.getElem?_eq_getElem (by omega), List.getElem?_eq_getElem (by omega), ?_⟩
  exact trails.leads position _ _ (List.getElem?_eq_getElem (by omega))
    (List.getElem?_eq_getElem (by omega))

theorem nodup_of_acyclic (trails : run.Trails graph) (acyclic : graph.Acyclic) :
    run.entered.Nodup := by
  by_contra again
  obtain ⟨first, last, name, sooner, leaves, enters, _⟩ := trails.followsCycle_of_repeat again
  have begun : run.transitions ≠ [] := by
    intro empty
    obtain ⟨transition, found, _⟩ := leaves
    simp [empty] at found
  obtain ⟨start, starts, opening⟩ := trails.opens begun
  refine acyclic start starts name ?_ (trails.path sooner leaves enters)
  rcases Nat.eq_zero_or_pos first with rfl | later
  · have same := ((trails.entersAt_iff 0).mpr opening).symm.trans ((trails.entersAt_iff 0).mpr leaves)
    obtain rfl := Option.some.inj same
    exact .refl
  · exact (trails.path later opening leaves).to_reflTransGen

theorem entered_le_of_nodup (trails : run.Trails graph) (fresh : run.entered.Nodup) :
    run.entered.length ≤ graph.size := by
  have inside : run.entered ⊆ graph.names := fun name member => trails.known name member
  have bound := fresh.length_le_of_subset inside
  rwa [TaskGraph.names, List.length_map] at bound

end Run.Trails

/-- How far a run has come after so many turns and calls. Each task that it enters takes it three
turns: one to announce the task, one to call its step and one to report the outcome. -/
def Phase.Pace (turns calls entered : Nat) : Phase φ → Prop
  | .starting => turns = 0 ∧ calls = 0 ∧ entered = 0
  | .entering _ => entered = calls + 1 ∧ turns = 3 * calls + 1
  | .calling _ => entered = calls + 1 ∧ turns = 3 * calls + 2
  | .reporting .. => entered = calls ∧ turns = 3 * calls
  | .failing _ | .completing => calls ≤ entered ∧ turns ≤ 3 * entered + 1
  | .stalled | .ended _ => calls ≤ entered

section Pace

variable {engine : Engine φ} {graph : TaskGraph φ} {run next : Run φ} {turns calls : Nat}

/-- No step is called for a task that has not been entered. -/
theorem Run.calls_le_of_pace (pace : run.phase.Pace turns calls run.entered.length) :
    calls + run.visit?.toList.length ≤ run.entered.length := by
  cases phase : run.phase
  all_goals
    simp only [phase, Phase.Pace] at pace
    simp only [Run.visit?, phase, Option.toList, List.length_cons, List.length_nil]
    omega

theorem Run.turns_le_of_underway (pace : run.phase.Pace turns calls run.entered.length)
    (underway : run.phase.Underway) : turns ≤ 3 * run.entered.length := by
  generalize run.phase = before at pace underway
  cases underway
  all_goals
    simp only [Phase.Pace] at pace
    omega

theorem Run.Turned.pace (turned : Turned engine run next)
    (pace : run.phase.Pace turns calls run.entered.length) :
    next.phase.Pace (turns + 1) (calls + run.visit?.toList.length) next.entered.length := by
  obtain ⟨_, recorded, proceeds, kept, _⟩ := turned
  have entered : next.entered.length =
      run.entered.length + (recorded.filterMap (·.destination)).length := by
    simp [Run.entered, kept]
  have called := Run.calls_le_of_pace pace
  have spent := Run.turns_le_of_underway pace
  rw [entered]
  generalize next.phase = reached at proceeds
  cases proceeds with
  | started phase | admitted phase | settled phase | stalled phase | moved phase | left phase
    | waiting phase =>
    simp only [phase, Phase.Pace] at pace
    simp only [Run.visit?, phase, Phase.Pace, Transition.entry, Transition.move, Transition.exit,
      List.filterMap_cons, List.filterMap_nil, Option.toList, List.length_cons, List.length_nil]
    omega
  | failed underway => exact ⟨called, Nat.succ_le_succ (spent underway)⟩
  | ended => exact called

theorem Engine.pace (engine : Engine φ) (graph : TaskGraph φ) (input : Value) (context : Context)
    (turns : Nat) :
    (engine.run turns graph input context).phase.Pace turns
      (engine.visits turns graph input context).length
      (engine.run turns graph input context).entered.length := by
  induction turns with
  | zero => exact ⟨rfl, rfl, rfl⟩
  | succ turns ih =>
    rw [engine.run_succ, engine.visits_succ, List.length_append]
    exact (Run.turned_advance engine _).pace ih

theorem Engine.never_stalled (settles : engine.Settles graph) (input : Value) (context : Context)
    (turns : Nat) : (engine.run turns graph input context).phase ≠ .stalled := by
  induction turns with
  | zero => rintro ⟨⟩
  | succ turns ih =>
    intro waits
    obtain ⟨_, recorded, proceeds, _⟩ :=
      Run.turned_advance engine (engine.run turns graph input context)
    rw [← engine.run_succ, waits] at proceeds
    cases proceeds with
    | @stalled task phase stalled =>
      have stands : (engine.run turns graph input context).phase.task? = some task := by
        rw [phase]
        rfl
      have found := (engine.confined graph input context turns).known task stands
      exact settles task (TaskGraph.mem_of_get? found).1 _ _ stalled
    | waiting phase => exact ih phase

/-- A run that has not stalled has ended once every task that it can enter has had its turns. -/
theorem Engine.ended_of_bound {bound : Nat} {input : Value} {context : Context}
    (entered : (engine.run (3 * bound + 2) graph input context).entered.length ≤ bound)
    (going : (engine.run (3 * bound + 2) graph input context).phase ≠ .stalled) :
    ∃ ending, (engine.run (3 * bound + 2) graph input context).ending? = some ending := by
  have pace := engine.pace graph input context (3 * bound + 2)
  cases phase : (engine.run (3 * bound + 2) graph input context).phase with
  | ended ending => exact ⟨ending, by simp [Run.ending?, phase]⟩
  | stalled => exact absurd phase going
  | _ =>
    simp only [phase, Phase.Pace] at pace
    omega

end Pace

/-- Edges along which a rank falls cannot lead back. -/
theorem TaskGraph.acyclic_of_rank {graph : TaskGraph φ} (rank : String → Nat)
    (falls : ∀ edge ∈ graph.edges, ∀ target, edge.target = some target →
      rank target < rank edge.source) : graph.Acyclic := by
  have lower : ∀ {source target}, Relation.TransGen graph.Leads source target →
      rank target < rank source := by
    intro source target path
    induction path with
    | single leads =>
      obtain ⟨edge, member, rfl, onward⟩ := leads
      exact falls edge member _ onward
    | tail _ leads ih =>
      obtain ⟨edge, member, rfl, onward⟩ := leads
      exact Nat.lt_trans (falls edge member _ onward) ih
  intro start _ name _ cycle
  exact Nat.lt_irrefl _ (lower cycle)

/-- Where no cycle can be reached, a run calls no more steps than there are tasks, enters none of
them twice, and ends if its steps settle. On any graph, a run that enters more tasks than there are
has followed a cycle. -/
theorem acyclic_workflows_terminate (engine : Engine φ) (graph : TaskGraph φ) :
    (graph.Acyclic → ∀ (input : Value) (context : Context),
      (∀ turns,
        (engine.visits turns graph input context).length ≤ graph.size ∧
        (engine.run turns graph input context).entered.Nodup ∧
        (engine.run turns graph input context).transitions.length ≤ graph.size + 1) ∧
      (engine.Settles graph → ∃ ending,
        (engine.run (3 * graph.size + 2) graph input context).ending? = some ending)) ∧
    ∀ (input : Value) (context : Context) (turns : Nat),
      graph.size < (engine.run turns graph input context).entered.length →
      graph.FollowsCycle (engine.run turns graph input context).transitions := by
  constructor
  · intro acyclic input context
    have fresh := fun turns => (engine.trails graph input context turns).nodup_of_acyclic acyclic
    have bounded := fun turns =>
      (engine.trails graph input context turns).entered_le_of_nodup (fresh turns)
    constructor
    · intro turns
      have called := Run.calls_le_of_pace (engine.pace graph input context turns)
      have recorded := (engine.trails graph input context turns).length_le
      have entered := bounded turns
      exact ⟨by omega, fresh turns, by omega⟩
    · intro settles
      exact Engine.ended_of_bound (bounded _) (Engine.never_stalled settles input context _)
  · intro input context turns more
    have trails := engine.trails graph input context turns
    refine trails.followsCycle_of_repeat fun fresh => ?_
    exact Nat.not_lt.mpr (trails.entered_le_of_nodup fresh) more

def Retry.straight : TaskGraph Step :=
  .ofList [{ recover with routing := .activity (some "check") none }, fetch,
    { check with routing := .choice (.ofList [("found", none), ("lost", none)]) }]

theorem Retry.straight_acyclic : Retry.straight.Acyclic := by
  refine TaskGraph.acyclic_of_rank
    (fun name => if name = "fetch" then 2 else if name = "recover" then 1 else 0) ?_
  decide

theorem Retry.straight_settles : Retry.engine.Settles Retry.straight := by
  intro task member payload context stalled
  have settled := Settlement.stalled_of_conclusion stalled
  have tasks : Retry.straight.tasks = [{ recover with routing := .activity (some "check") none },
    fetch, { check with routing := .choice (.ofList [("found", none), ("lost", none)]) }] := rfl
  simp only [tasks, List.mem_cons, List.not_mem_nil, or_false] at member
  rcases member with rfl | rfl | rfl
  · cases settled
  · simp only [Visit.behaviour, Retry.engine, Retry.fetch, Step.perform, id] at settled
    split at settled <;> cases settled
  · cases settled

theorem retry_terminates_where_it_cannot_turn_back :
    Retry.straight.Acyclic ∧ Retry.engine.Settles Retry.straight ∧
      (∀ turns,
        (Retry.engine.visits turns Retry.straight .null (Retry.reply "found")).length ≤ 3 ∧
        (Retry.engine.run turns Retry.straight .null (Retry.reply "found")).entered.Nodup ∧
        (Retry.engine.run turns Retry.straight .null
          (Retry.reply "found")).transitions.length ≤ 4) ∧
      (∃ ending, (Retry.engine.run 11 Retry.straight .null (Retry.reply "found")).ending? =
        some ending) ∧
      3 < (Retry.engine.run 14 Retry.graph .null (Retry.reply "found")).entered.length ∧
      Retry.graph.FollowsCycle
        (Retry.engine.run 14 Retry.graph .null (Retry.reply "found")).transitions := by
  have bounded := (acyclic_workflows_terminate Retry.engine Retry.straight).1
    Retry.straight_acyclic .null (Retry.reply "found")
  have more : Retry.graph.size <
      (Retry.engine.run 14 Retry.graph .null (Retry.reply "found")).entered.length := by decide
  exact ⟨Retry.straight_acyclic, Retry.straight_settles, bounded.1, bounded.2 Retry.straight_settles,
    more, (acyclic_workflows_terminate Retry.engine Retry.graph).2 _ _ _ more⟩

end Flowtrace
