import Mathlib.Data.List.Flatten
import Mathlib.Data.List.Perm.Subperm
import Flowtrace.Proofs.Termination

/-! What the lint decides. It finds nothing to say of a graph exactly if the graph is well formed,
and it names a task as unreachable exactly if no path of edges leads to the task from the one that
runs start from. Its search ends on every graph, with cycles or with pointers that lead nowhere. -/

namespace Flowtrace

variable {φ : Type}

def Routing.pointers : Routing → List Pointer
  | .activity next catches => next :: (catches.map (·.values)).getD []
  | .choice branches => branches.values

namespace TaskGraph

/-- A path of edges leads from the start task to a name. -/
def Connected (graph : TaskGraph φ) (name : String) : Prop :=
  ∃ start, graph.startTask? = some start ∧ Relation.ReflTransGen graph.Leads start.name name

structure WellFormed (graph : TaskGraph φ) : Prop where
  inhabited : graph.tasks ≠ []
  oneStart : ∀ task ∈ graph.tasks, ∀ other ∈ graph.tasks,
    task.start = true → other.start = true → task = other
  resolves : ∀ task ∈ graph.tasks, ∀ target, some target ∈ task.routing.pointers →
    target ∈ graph.names
  branches : ∀ task ∈ graph.tasks, ∀ branches, task.routing = .choice branches →
    branches.keys ≠ []
  connected : ∀ task ∈ graph.tasks, graph.Connected task.name

def complaints (graph : TaskGraph φ) : List String := graph.problems.map Problem.message

/-- The search of the lint within a budget of turns. Of the targets of a task, which all go on the
stack, the last is taken off first. -/
def search (graph : TaskGraph φ) (turns : Nat) : Option (List String) :=
  Walk.search graph.names (fun name => (graph.targetsOf name).reverse) turns []
    (graph.startTask?.map (·.name)).toList

end TaskGraph

theorem Task.edges_target (task : Task φ) :
    task.edges.map (·.target) = task.routing.pointers := by
  cases routing : task.routing with
  | activity next catches =>
    cases catches with
    | none => simp [edges, routing, Routing.pointers]
    | some catches => simp [edges, routing, Routing.pointers, OrderedMap.values, Function.comp_def]
  | choice branches => simp [edges, routing, Routing.pointers, OrderedMap.values, Function.comp_def]

theorem length_le_one_iff_of_nodup {α : Type} {items : List α} (once : items.Nodup) :
    items.length ≤ 1 ↔ ∀ item ∈ items, ∀ other ∈ items, item = other := by
  constructor
  · intro short item member other also
    obtain ⟨single, rfl⟩ := List.length_eq_one_iff.mp
      (Nat.le_antisymm short (List.length_pos_of_mem member))
    rw [List.mem_singleton.mp member, List.mem_singleton.mp also]
  · intro alike
    match items, once with
    | [], _ => exact Nat.zero_le 1
    | [_], _ => exact Nat.le_refl 1
    | first :: second :: rest, once =>
      have differ : first ≠ second := List.ne_of_not_mem_cons (List.nodup_cons.mp once).1
      exact absurd (alike first (by simp) second (by simp)) differ

namespace Problem

theorem first_of_message (problem : Problem) :
    problem.message.toList.head? = some
      (match problem with
      | .noStart => 'G'
      | .severalStarts _ => 'S'
      | .noBranches _ => 'C'
      | .unknownTarget .. | .unreachable _ => 'T') := by
  cases problem with
  | noStart => rfl
  | severalStarts flagged | noBranches choice | unknownTarget edge target | unreachable task =>
    change (_ ++ _ : String).toList.head? = _
    simp only [String.toList_append]
    rfl

theorem last_of_unknownTarget (edge : Edge) (target : String) :
    (unknownTarget edge target).message.toList.getLast? = some '\'' := by
  change (_ ++ _ : String).toList.getLast? = _
  rw [String.toList_append]
  exact List.getLast?_concat

theorem last_of_unreachable (task : String) :
    (unreachable task).message.toList.getLast? = some 'k' := by
  change (_ ++ _ : String).toList.getLast? = _
  rw [String.toList_append, List.getLast?_append]
  rfl

/-- Only an unreachable task is told of in the words for it. -/
theorem eq_unreachable_of_message {problem : Problem} {task : String}
    (same : problem.message = (unreachable task).message) : problem = unreachable task := by
  have first := problem.first_of_message.symm.trans
    ((congrArg (·.toList.head?) same).trans (unreachable task).first_of_message)
  cases problem with
  | noStart | severalStarts _ | noBranches _ => simp at first
  | unknownTarget edge target =>
    have last := (last_of_unknownTarget edge target).symm.trans
      ((congrArg (·.toList.getLast?) same).trans (last_of_unreachable task))
    simp at last
  | unreachable other =>
    change (_ ++ _ ++ _ : String) = _ ++ _ ++ _ at same
    rw [String.append_left_inj, String.append_right_inj] at same
    rw [same]

end Problem

namespace TaskGraph

variable {graph : TaskGraph φ}

theorem contains_iff_mem_names (name : String) :
    graph.contains name = true ↔ name ∈ graph.names := by
  rw [contains, Option.isSome_iff_exists]
  constructor
  · rintro ⟨task, found⟩
    exact name_mem_of_get? found
  · intro member
    obtain ⟨task, inside, rfl⟩ := List.mem_map.mp member
    exact ⟨task, get?_of_mem inside⟩

theorem mem_targetsOf_iff (name target : String) :
    target ∈ graph.targetsOf name ↔ graph.Leads name target := by
  constructor
  · intro member
    unfold targetsOf at member
    cases found : graph.get? name with
    | none => simp [found] at member
    | some task =>
      rw [found] at member
      obtain ⟨edge, declared, onward⟩ := List.mem_filterMap.mp member
      obtain ⟨inside, rfl⟩ := mem_of_get? found
      exact ⟨edge, List.mem_flatMap.mpr ⟨task, inside, declared⟩,
        Task.source_of_edge declared, onward⟩
  · rintro ⟨edge, member, rfl, onward⟩
    obtain ⟨task, inside, declared⟩ := List.mem_flatMap.mp member
    rw [targetsOf, Task.source_of_edge declared, get?_of_mem inside]
    exact List.mem_filterMap.mpr ⟨edge, declared, onward⟩

theorem source_mem_names {name target : String} (leads : graph.Leads name target) :
    name ∈ graph.names := by
  obtain ⟨edge, member, rfl, _⟩ := leads
  obtain ⟨task, inside, declared⟩ := List.mem_flatMap.mp member
  exact List.mem_map.mpr ⟨task, inside, (Task.source_of_edge declared).symm⟩

/-- A path of edges that comes to a task passes through tasks only, since only tasks have edges. -/
theorem path_iff_joins {start name : String} (present : name ∈ graph.names)
    {successors : String → List String}
    (follows : ∀ name target, target ∈ successors name ↔ graph.Leads name target) :
    Relation.ReflTransGen (Walk.Joins graph.names successors) start name ↔
      Relation.ReflTransGen graph.Leads start name := by
  constructor
  · apply Relation.ReflTransGen.mono
    exact fun name target joins => (follows name target).mp joins.1
  · intro path
    induction path with
    | refl => exact .refl
    | tail _ leads ih => exact (ih (source_mem_names leads)).tail ⟨(follows _ _).mpr leads, present⟩

/-- Whatever the order in which a walk takes the targets of a task, it enters what is connected. -/
theorem mem_order_iff_connected {start : Task φ} (selected : graph.startTask? = some start)
    {successors : String → List String}
    (follows : ∀ name target, target ∈ successors name ↔ graph.Leads name target)
    (name : String) :
    name ∈ Walk.order graph.names successors start.name ↔
      name ∈ graph.names ∧ graph.Connected name := by
  have inside : start.name ∈ graph.names := List.mem_map.mpr ⟨start, startTask?_mem selected, rfl⟩
  constructor
  · intro entered
    have present := Walk.mem_world_of_order entered
    exact ⟨present, start, selected,
      (path_iff_joins present follows).mp ((Walk.mem_order_iff inside name).mp entered)⟩
  · rintro ⟨present, other, also, path⟩
    obtain rfl := Option.some.inj (selected.symm.trans also)
    exact (Walk.mem_order_iff inside name).mpr ((path_iff_joins present follows).mpr path)

theorem mem_reachable_iff (name : String) :
    name ∈ graph.reachable ↔ name ∈ graph.names ∧ graph.Connected name := by
  cases selected : graph.startTask? with
  | none =>
    have empty := startTask?_eq_none.mp selected
    simp [reachable, selected, names, empty]
  | some start =>
    rw [reachable, selected]
    exact mem_order_iff_connected selected mem_targetsOf_iff name

theorem targets_eq (graph : TaskGraph φ) :
    graph.names.flatMap graph.targetsOf = graph.edges.filterMap (·.target) := by
  rw [names, List.flatMap_map, edges, List.filterMap_flatMap]
  apply List.flatMap_congr
  intro task inside
  rw [targetsOf, get?_of_mem inside]

/-- A walk of the graph puts the target of each edge on its stack at most once. -/
theorem targets_length_le {entered : List String} (once : entered.Nodup)
    (inside : ∀ name ∈ entered, name ∈ graph.names) :
    (entered.flatMap fun name => (graph.targetsOf name).reverse).length ≤ graph.edges.length := by
  obtain ⟨kept, same, part⟩ := List.Nodup.subperm once fun name member => inside name member
  calc (entered.flatMap fun name => (graph.targetsOf name).reverse).length
      = (entered.flatMap graph.targetsOf).length := by
        simp only [List.length_flatMap, List.length_reverse]
    _ = (kept.flatMap graph.targetsOf).length :=
        (same.flatMap_right graph.targetsOf).length_eq.symm
    _ ≤ (graph.names.flatMap graph.targetsOf).length := (part.flatMap graph.targetsOf).length_le
    _ ≤ graph.edges.length := by
      rw [targets_eq]
      exact List.length_filterMap_le _ _

theorem search_ends (graph : TaskGraph φ) :
    ∃ reached, (∀ turns, graph.edges.length < turns → graph.search turns = some reached) ∧
      ∀ name, name ∈ reached ↔ name ∈ graph.names ∧ graph.Connected name := by
  cases selected : graph.startTask? with
  | none =>
    have empty := startTask?_eq_none.mp selected
    refine ⟨[], fun turns _ => ?_, by simp [names, empty]⟩
    rw [search, selected]
    cases turns <;> rfl
  | some start =>
    have follows : ∀ name target,
        target ∈ (graph.targetsOf name).reverse ↔ graph.Leads name target :=
      fun name target => List.mem_reverse.trans (mem_targetsOf_iff name target)
    refine ⟨_, fun turns enough => ?_, mem_order_iff_connected selected follows⟩
    rw [search, selected]
    apply Walk.search_order
    rw [Nat.add_comm]
    refine Nat.lt_of_le_of_lt (targets_length_le (Walk.order_nodup start.name) ?_) enough
    exact fun name entered => Walk.mem_world_of_order entered

theorem startProblems_eq_nil_iff :
    graph.startProblems = [] ↔ ∀ task ∈ graph.tasks, ∀ other ∈ graph.tasks,
      task.start = true → other.start = true → task = other := by
  have once : (graph.tasks.filter (·.start)).Nodup := (List.Nodup.of_map _ graph.distinct).filter _
  have silent : graph.startProblems = [] ↔ (graph.tasks.filter (·.start)).length ≤ 1 := by
    simp [startProblems]
  rw [silent, length_le_one_iff_of_nodup once]
  simp only [List.mem_filter]
  constructor
  · intro alike task inside other also flagged too
    exact alike task ⟨inside, flagged⟩ other ⟨also, too⟩
  · rintro alike task ⟨inside, flagged⟩ other ⟨also, too⟩
    exact alike task inside other also flagged too

theorem targetProblems_eq_nil_iff :
    graph.targetProblems = [] ↔ ∀ task ∈ graph.tasks, ∀ edge ∈ task.edges, ∀ target,
      edge.target = some target → graph.contains target = true := by
  rw [targetProblems, List.filterMap_eq_nil_iff]
  constructor
  · intro sound task inside edge declared target onward
    have passed := sound edge (List.mem_flatMap.mpr ⟨task, inside, declared⟩)
    by_contra missing
    simp [onward, missing] at passed
  · intro leads edge member
    obtain ⟨task, inside, declared⟩ := List.mem_flatMap.mp member
    cases onward : edge.target with
    | none => rfl
    | some target => exact if_pos (leads task inside edge declared target onward)

theorem leads_iff_resolves :
    (∀ task ∈ graph.tasks, ∀ edge ∈ task.edges, ∀ target, edge.target = some target →
      graph.contains target = true) ↔
    ∀ task ∈ graph.tasks, ∀ target, some target ∈ task.routing.pointers →
      target ∈ graph.names := by
  simp only [← Task.edges_target, List.mem_map, contains_iff_mem_names]
  constructor
  · rintro leads task inside target ⟨edge, declared, onward⟩
    exact leads task inside edge declared target onward
  · intro resolves task inside edge declared target onward
    exact resolves task inside target ⟨edge, declared, onward⟩

theorem branchProblems_eq_nil_iff :
    graph.branchProblems = [] ↔ ∀ task ∈ graph.tasks, ∀ branches,
      task.routing = .choice branches → branches.keys ≠ [] := by
  rw [branchProblems, List.filterMap_eq_nil_iff]
  apply forall₂_congr
  intro task inside
  cases routing : task.routing with
  | activity next catches => simp
  | choice branches => simp [OrderedMap.isEmpty, OrderedMap.keys]

theorem reachProblems_eq_nil_iff :
    graph.reachProblems = [] ↔ ∀ task ∈ graph.tasks, graph.Connected task.name := by
  simp only [reachProblems, List.map_eq_nil_iff, List.filter_eq_nil_iff, decide_eq_true_eq,
    Decidable.not_not]
  apply forall₂_congr
  intro task inside
  rw [mem_reachable_iff]
  exact and_iff_right (List.mem_map.mpr ⟨task, inside, rfl⟩)

theorem problems_eq_nil_iff : graph.problems = [] ↔ graph.WellFormed := by
  cases selected : graph.startTask? with
  | none =>
    have empty := startTask?_eq_none.mp selected
    rw [problems, selected]
    constructor
    · simp
    · exact fun formed => absurd empty formed.inhabited
  | some start =>
    have inhabited : graph.tasks ≠ [] := fun empty => by
      rw [startTask?_eq_none.mpr empty] at selected
      cases selected
    rw [problems, selected, List.append_eq_nil_iff, List.append_eq_nil_iff, List.append_eq_nil_iff,
      startProblems_eq_nil_iff, targetProblems_eq_nil_iff, leads_iff_resolves,
      branchProblems_eq_nil_iff, reachProblems_eq_nil_iff]
    constructor
    · rintro ⟨⟨⟨oneStart, resolves⟩, branches⟩, connected⟩
      exact ⟨inhabited, oneStart, resolves, branches, connected⟩
    · rintro ⟨_, oneStart, resolves, branches, connected⟩
      exact ⟨⟨⟨oneStart, resolves⟩, branches⟩, connected⟩

theorem unreachable_mem_complaints_iff {task : Task φ} (inside : task ∈ graph.tasks) :
    (Problem.unreachable task.name).message ∈ graph.complaints ↔ ¬ graph.Connected task.name := by
  have known : task.name ∈ graph.names := List.mem_map.mpr ⟨task, inside, rfl⟩
  have told : (Problem.unreachable task.name).message ∈ graph.complaints ↔
      .unreachable task.name ∈ graph.problems := by
    constructor
    · intro member
      obtain ⟨problem, found, same⟩ := List.mem_map.mp member
      rwa [Problem.eq_unreachable_of_message same] at found
    · exact List.mem_map_of_mem
  rw [told, unreachable_mem_problems_iff, mem_reachable_iff]
  simp [known]

end TaskGraph

/-- The lint has nothing to say of a graph exactly if the graph is well formed, and says that a task
is unreachable exactly if no path of edges leads to it from the start task. Its search takes at most
one turn for each edge of the graph and one for the start. -/
theorem lint_decides_well_formedness (graph : TaskGraph φ) :
    (graph.complaints = [] ↔ graph.WellFormed) ∧
    (∀ task ∈ graph.tasks,
      "Task '" ++ task.name ++ "' is unreachable from start task" ∈ graph.complaints ↔
        ¬ graph.Connected task.name) ∧
    ∃ reached, (∀ turns, graph.edges.length < turns → graph.search turns = some reached) ∧
      ∀ name, (name ∈ reached ↔ name ∈ graph.reachable) ∧
        (name ∈ reached ↔ name ∈ graph.names ∧ graph.Connected name) := by
  refine ⟨?_, fun task inside => TaskGraph.unreachable_mem_complaints_iff inside, ?_⟩
  · rw [TaskGraph.complaints, List.map_eq_nil_iff]
    exact TaskGraph.problems_eq_nil_iff
  · obtain ⟨reached, ends, connected⟩ := graph.search_ends
    refine ⟨reached, ends, fun name => ⟨?_, connected name⟩⟩
    rw [connected, TaskGraph.mem_reachable_iff]

def Retry.adrift : TaskGraph Step :=
  .ofList [recover, { fetch with routing := .activity (some "check") none },
    { check with routing := .choice (.ofList [("found", some "search"), ("lost", some "fetch")]) }]

theorem retry_lint_decides :
    Retry.mended.complaints = [] ∧ Retry.mended.WellFormed ∧
      Retry.recover ∈ Retry.adrift.tasks ∧ Retry.adrift.edges.length < 5 ∧
      Retry.adrift.search 5 = some ["fetch", "check"] ∧
      ¬ Retry.adrift.Connected "recover" ∧
      "Task 'recover' is unreachable from start task" ∈ Retry.adrift.complaints := by
  have start : Retry.mended.startTask? = some Retry.fetch := rfl
  have clean : Retry.mended.complaints = [] := by
    simp only [TaskGraph.complaints, TaskGraph.problems, start, TaskGraph.reachProblems,
      Retry.mended_reachable]
    rfl
  have formed := (lint_decides_well_formedness Retry.mended).1.mp clean
  obtain ⟨_, lost, reached, ends, same⟩ := lint_decides_well_formedness Retry.adrift
  have member : Retry.recover ∈ Retry.adrift.tasks := List.mem_cons_self
  have small : Retry.adrift.edges.length < 5 := by decide
  have found : Retry.adrift.search 5 = some ["fetch", "check"] := by rfl
  obtain rfl := Option.some.inj ((ends 5 small).symm.trans found)
  have apart : ¬ Retry.adrift.Connected "recover" := by
    intro connected
    have entered := ((same "recover").2.mpr ⟨List.mem_cons_self, connected⟩)
    simp at entered
  exact ⟨clean, formed, member, small, found, apart, (lost _ member).mpr apart⟩

end Flowtrace
