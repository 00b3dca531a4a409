import Mathlib.Data.List.Nodup
import Flowtrace.Proofs.TracePath

/-! The edges that a run followed. A transition keeps the label of its edge and not the kind, so an
edge is followed if the step before it also settled as the kind of the edge requires. Source and
label pick one edge of a graph, except that an activity may declare a catch pattern that is spelled
like the label of its success. -/

namespace Flowtrace

variable {φ : Type}

/-- A transition has the source, the label and the target of an edge, and the step of the visit
that it ends has settled as the kind of the edge requires. -/
structure Transition.Follows (transition : Transition) (visit : Visit φ) (outcome : Outcome)
    (edge : Edge) : Prop where
  here : visit.task.name = edge.source
  source : transition.source = some edge.source
  label : transition.edge = some edge.label
  target : transition.destination = edge.target
  kind : visit.task.kindAfter outcome = edge.kind

inductive FollowedAt (engine : Engine φ) (visits : List (Visit φ)) (result : RunResult)
    (position : Nat) : Edge → Prop where
  | intro {visit outcome transition edge} (made : visits[position]? = some visit)
      (settled : visit.conclusion engine = .settled outcome)
      (recorded : result.transitions[position + 1]? = some transition)
      (follows : transition.Follows visit outcome edge) :
      FollowedAt engine visits result position edge

def Followed (engine : Engine φ) (visits : List (Visit φ)) (result : RunResult) (edge : Edge) :
    Prop :=
  ∃ position, FollowedAt engine visits result position edge

/-- Two edges of an activity that share one label: the edge of success, and the catch edge of the
pattern that is spelled like it. -/
structure Edge.Homonym (edge other : Edge) : Prop where
  source : edge.source = other.source
  label : edge.label = thenLabel
  shared : other.label = thenLabel
  kinds : edge.kind = .next ∧ other.kind = .caught ∨ edge.kind = .caught ∧ other.kind = .next

namespace Task

theorem eq_or_homonym {task : Task φ} {edge other : Edge} (declared : edge ∈ task.edges)
    (also : other ∈ task.edges) (label : edge.label = other.label) :
    edge = other ∨ edge.Homonym other := by
  have source : edge.source = other.source :=
    (source_of_edge declared).trans (source_of_edge also).symm
  -- Patterns are distinct, and so are branches; only success and a pattern can have one label.
  cases mem_edges_iff.mp declared with
  | onward routing =>
    cases mem_edges_iff.mp also with
    | onward again =>
      cases routing.symm.trans again
      exact .inl rfl
    | caught entry => exact .inr ⟨source, rfl, label.symm, .inl ⟨rfl, rfl⟩⟩
    | branch again entry => cases routing.symm.trans again
  | caught entry =>
    cases mem_edges_iff.mp also with
    | onward routing => exact .inr ⟨source, label, rfl, .inr ⟨rfl, rfl⟩⟩
    | caught second =>
      have same := List.inj_on_of_nodup_map task.routing.catchEntries_distinct entry second label
      cases same
      exact .inl rfl
    | branch routing second => simp [routing, Routing.catchEntries] at entry
  | @branch branches key target routing entry =>
    cases mem_edges_iff.mp also with
    | onward again => cases routing.symm.trans again
    | caught second => simp [routing, Routing.catchEntries] at second
    | branch again second =>
      cases routing.symm.trans again
      have same := List.inj_on_of_nodup_map branches.distinct entry second label
      cases same
      exact .inl rfl

end Task

namespace TaskGraph

variable {graph : TaskGraph φ} {edge other : Edge}

theorem task_of_edge (member : edge ∈ graph.edges) :
    ∃ task ∈ graph.tasks, edge ∈ task.edges ∧ edge.source = task.name := by
  obtain ⟨task, inside, declared⟩ := List.mem_flatMap.mp member
  exact ⟨task, inside, declared, Task.source_of_edge declared⟩

theorem eq_or_homonym (member : edge ∈ graph.edges) (also : other ∈ graph.edges)
    (source : edge.source = other.source) (label : edge.label = other.label) :
    edge = other ∨ edge.Homonym other := by
  obtain ⟨task, inside, declared, leaves⟩ := task_of_edge member
  obtain ⟨twin, within, stated, departs⟩ := task_of_edge also
  have names : task.name = twin.name := leaves.symm.trans (source.trans departs)
  obtain rfl : task = twin := List.inj_on_of_nodup_map graph.distinct inside within names
  exact Task.eq_or_homonym declared stated label

/-- Where no activity catches by the label of success, there are no homonyms. -/
theorem not_homonym
    (plain : ∀ task ∈ graph.tasks, ∀ entry ∈ task.routing.catchEntries, entry.1 ≠ thenLabel)
    (member : edge ∈ graph.edges) (also : other ∈ graph.edges) : ¬ edge.Homonym other := by
  have named : ∀ caught ∈ graph.edges, caught.kind = .caught → caught.label ≠ thenLabel := by
    intro caught among kind
    obtain ⟨task, inside, declared, _⟩ := task_of_edge among
    cases Task.mem_edges_iff.mp declared with
    | onward => cases kind
    | caught entry => exact plain task inside _ entry
    | branch => cases kind
  intro homonym
  rcases homonym.kinds with ⟨_, kind⟩ | ⟨kind, _⟩
  · exact named other also kind homonym.shared
  · exact named edge member kind homonym.label

end TaskGraph

section Followed

variable {engine : Engine φ} {graph : TaskGraph φ} {visits : List (Visit φ)} {result : RunResult}
  {position : Nat} {edge other : Edge}

theorem FollowedAt.eq (followed : FollowedAt engine visits result position edge)
    (also : FollowedAt engine visits result position other) : edge = other := by
  cases followed with
  | intro made settled recorded follows =>
    cases also with
    | intro remade resettled rerecorded refollows =>
      obtain rfl := Option.some.inj (made.symm.trans remade)
      obtain rfl := Option.some.inj (recorded.symm.trans rerecorded)
      cases settled.symm.trans resettled
      obtain ⟨source, label, target, kind⟩ := edge
      obtain ⟨_, _, _, _⟩ := other
      cases follows.here.symm.trans refollows.here
      cases follows.label.symm.trans refollows.label
      cases follows.target.symm.trans refollows.target
      cases follows.kind.symm.trans refollows.kind
      rfl

theorem FollowedAt.kept (followed : FollowedAt engine visits result position edge) :
    ∃ transition, result.transitions[position + 1]? = some transition ∧
      transition.followed? = some (edge.source, edge.label) := by
  cases followed with
  | intro made settled recorded follows =>
    refine ⟨_, recorded, ?_⟩
    rw [Transition.followed?, follows.source, follows.label]

/-- Every transition but the entry followed an edge of the graph. -/
theorem IsPath.followedAt (path : IsPath engine graph visits result) {transition : Transition}
    (recorded : result.transitions[position + 1]? = some transition) :
    ∃ edge ∈ graph.edges, FollowedAt engine visits result position edge := by
  obtain ⟨before, visit, _, made, follows⟩ := path.follows position transition recorded
  obtain ⟨outcome, label, settled, named, member, _⟩ := follows.edge
  have source : transition.source = some visit.task.name := follows.source.trans follows.entered
  exact ⟨_, member, .intro made settled recorded ⟨rfl, source, named, rfl, rfl⟩⟩

theorem Followed.mem (followed : Followed engine visits result edge)
    (path : IsPath engine graph visits result) : edge ∈ graph.edges := by
  obtain ⟨position, followed⟩ := followed
  cases followed with
  | intro made settled recorded follows =>
    obtain ⟨other, member, also⟩ := path.followedAt recorded
    exact (FollowedAt.intro made settled recorded follows).eq also ▸ member

theorem Concludes.entry_follows {input : Value} {context : Context} {ending : Ending φ}
    {first : Transition} (concludes : Concludes engine graph input context visits ending)
    (reported : ending.result? = some result) (found : result.transitions[0]? = some first) :
    first.followed? = none := by
  rcases concludes.result_cases reported with
    ⟨_, _, rfl⟩ | ⟨earlier, history, visit, _, journey, reported⟩
  · cases found
  · obtain ⟨task, _, opening, _⟩ := journey.head
    have entered : result.transitions[0]? = some (.entry task.name input) := by
      rcases reported with ⟨output, rfl⟩ | ⟨outcome, edge, _, _, _, rfl⟩
      · exact opening
      · exact getElem?_of_prefix (List.prefix_append _ _) opening
    obtain rfl := Option.some.inj (entered.symm.trans found)
    rfl

/-- What a result remembers of the edges that its run followed are their sources and labels. -/
theorem Concludes.mem_followed_iff {input : Value} {context : Context} {ending : Ending φ}
    (concludes : Concludes engine graph input context visits ending)
    (reported : ending.result? = some result) (source label : String) :
    (source, label) ∈ result.followed ↔
      ∃ edge, Followed engine visits result edge ∧ edge.source = source ∧ edge.label = label := by
  have path := concludes.isPath reported
  rw [RunResult.followed, List.mem_filterMap]
  constructor
  · intro ⟨transition, member, kept⟩
    obtain ⟨position, found⟩ := List.mem_iff_getElem?.mp member
    cases position with
    | zero =>
      rw [concludes.entry_follows reported found] at kept
      cases kept
    | succ position =>
      obtain ⟨edge, _, followed⟩ := path.followedAt found
      obtain ⟨other, recorded, same⟩ := followed.kept
      obtain rfl := Option.some.inj (found.symm.trans recorded)
      cases same.symm.trans kept
      exact ⟨edge, ⟨position, followed⟩, rfl, rfl⟩
  · intro ⟨edge, ⟨position, followed⟩, leaves, named⟩
    obtain ⟨transition, recorded, kept⟩ := followed.kept
    exact ⟨transition, List.mem_of_getElem? recorded, by rw [kept, leaves, named]⟩

end Followed

end Flowtrace
