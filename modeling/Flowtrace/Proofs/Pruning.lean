import Flowtrace.Proofs.Recasting

/-! Pruning a graph of the tasks that the lint finds unreachable. What is kept holds every task
that a run can come to, so no run notices that the others are gone: a pointer that led nowhere
still leads nowhere, and every other pointer of a kept task leads where it led. -/

namespace Flowtrace

variable {φ : Type}

def TaskGraph.pruned (graph : TaskGraph φ) : TaskGraph φ :=
  .ofList (graph.tasks.filter fun task => decide (task.name ∈ graph.reachable))

namespace Walk

variable {α : Type} [DecidableEq α] {world region : List α} {successors restricted : α → List α}

/-- A walk that starts in a closed region of its world goes the same way when there is nothing
beside the region. -/
theorem explore_of_region (within : ∀ place ∈ region, place ∈ world)
    (closed : ∀ place ∈ region, ∀ next ∈ successors place, next ∈ world → next ∈ region)
    (alike : ∀ place ∈ region, restricted place = successors place) (visited stack : List α)
    (inside : ∀ place ∈ stack, place ∈ world → place ∈ region) :
    explore region restricted visited stack = explore world successors visited stack := by
  fun_induction explore world successors visited stack with
  | case1 visited => rw [explore]
  | case2 visited place stack known ih =>
    have passed : place ∈ visited ∨ place ∉ region :=
      known.imp id fun outside here => outside (within place here)
    rw [explore, if_pos passed]
    exact ih fun other deeper => inside other (List.mem_cons_of_mem place deeper)
  | case3 visited place stack unknown ih =>
    simp only [not_or, Decidable.not_not] at unknown
    have here := inside place List.mem_cons_self unknown.2
    have entered : ¬ (place ∈ visited ∨ place ∉ region) := by simp [unknown.1, here]
    rw [explore, if_neg entered, alike place here]
    refine ih fun other member exists_there => ?_
    rcases List.mem_append.mp member with follows | deeper
    · exact closed place here other follows exists_there
    · exact inside other (List.mem_cons_of_mem place deeper) exists_there

end Walk

namespace TaskGraph

variable {graph : TaskGraph φ} {task : Task φ} {name : String}

theorem pruned_tasks (graph : TaskGraph φ) :
    graph.pruned.tasks = graph.tasks.filter fun task => decide (task.name ∈ graph.reachable) :=
  firstOfEachName_of_distinct ((List.filter_sublist.map _).nodup graph.distinct)

theorem mem_pruned_names :
    name ∈ graph.pruned.names ↔ name ∈ graph.names ∧ name ∈ graph.reachable := by
  simp only [names, pruned_tasks, List.mem_map, List.mem_filter, decide_eq_true_eq]
  constructor
  · rintro ⟨task, ⟨inside, reached⟩, rfl⟩
    exact ⟨⟨task, inside, rfl⟩, reached⟩
  · rintro ⟨⟨task, inside, rfl⟩, reached⟩
    exact ⟨task, ⟨inside, reached⟩, rfl⟩

theorem get?_pruned_of_reachable (reached : name ∈ graph.reachable) :
    graph.pruned.get? name = graph.get? name := by
  have kept : (fun task : Task φ =>
      decide (decide (task.name ∈ graph.reachable) = true ∧ (task.name == name) = true)) =
        fun task => task.name == name := by
    funext task
    by_cases same : task.name = name
    · simp [same, reached]
    · simp [same]
  rw [get?, pruned_tasks, List.find?_filter, kept]
  rfl

/-- Pruning drops no task that a name in the pruned graph leads to. -/
theorem get?_pruned_of_edge {edge : Edge} {target : String}
    (known : graph.get? task.name = some task) (reached : task.name ∈ graph.reachable)
    (member : edge ∈ task.edges) (onward : edge.target = some target) :
    graph.pruned.get? target = graph.get? target := by
  cases found : graph.get? target with
  | some next =>
    rw [get?_pruned_of_reachable (target_mem_reachable known reached member onward found), found]
  | none =>
    cases kept : graph.pruned.get? target with
    | none => rfl
    | some next =>
      have here := (mem_pruned_names.mp (name_mem_of_get? kept)).1
      obtain ⟨task, inside, rfl⟩ := List.mem_map.mp here
      rw [get?_of_mem inside] at found
      cases found

theorem pruned_namesake (known : graph.get? task.name = some task)
    (reached : task.name ∈ graph.reachable) : graph.pruned.namesake task = task := by
  apply namesake_of_get?
  rw [get?_pruned_of_reachable reached, known]

theorem find?_of_kept {tasks : List (Task φ)} {kept wanted : Task φ → Bool}
    (found : tasks.find? wanted = some task) (keeps : kept task = true) :
    (tasks.filter kept).find? wanted = some task := by
  obtain ⟨holds, before, after, rfl, misses⟩ := List.find?_eq_some_iff_append.mp found
  rw [List.filter_append, List.filter_cons_of_pos keeps]
  refine List.find?_eq_some_iff_append.mpr ⟨holds, _, _, rfl, ?_⟩
  exact fun other member => misses other ((List.mem_filter.mp member).1)

theorem pruned_startTask? (graph : TaskGraph φ) : graph.pruned.startTask? = graph.startTask? := by
  cases selected : graph.startTask? with
  | none =>
    rw [startTask?_eq_none] at selected ⊢
    rw [pruned_tasks, selected]
    rfl
  | some start =>
    have kept : decide (start.name ∈ graph.reachable) = true :=
      decide_eq_true (start_mem_reachable selected)
    rw [startTask?, pruned_tasks]
    rcases Option.or_eq_some_iff.mp selected with flagged | ⟨unflagged, first⟩
    · exact Option.or_eq_some_iff.mpr (.inl (find?_of_kept flagged kept))
    · obtain ⟨rest, tasks⟩ := List.head?_eq_some_iff.mp first
      refine Option.or_eq_some_iff.mpr (.inr ⟨?_, ?_⟩)
      · rw [List.find?_eq_none] at unflagged ⊢
        exact fun task member => unflagged task ((List.mem_filter.mp member).1)
      · simp only [tasks, List.filter_cons, kept, if_true, List.head?_cons]

theorem pruned_reachable (graph : TaskGraph φ) : graph.pruned.reachable = graph.reachable := by
  cases selected : graph.startTask? with
  | none => simp [reachable, pruned_startTask?, selected]
  | some start =>
    have here : start.name ∈ graph.pruned.names :=
      mem_pruned_names.mpr
        ⟨List.mem_map.mpr ⟨start, startTask?_mem selected, rfl⟩, start_mem_reachable selected⟩
    have order : graph.reachable = Walk.order graph.names graph.targetsOf start.name := by
      rw [reachable, selected]
    have walked : graph.pruned.reachable =
        Walk.order graph.pruned.names graph.pruned.targetsOf start.name := by
      rw [reachable, pruned_startTask?, selected]
    rw [walked, order]
    apply Walk.explore_of_region
    · exact fun name kept => (mem_pruned_names.mp kept).1
    · intro name kept next follows inside
      have reached := (mem_pruned_names.mp kept).2
      refine mem_pruned_names.mpr ⟨inside, ?_⟩
      rw [order] at reached ⊢
      exact Walk.order_closed reached follows inside
    · intro name kept
      rw [targetsOf, targetsOf, get?_pruned_of_reachable (mem_pruned_names.mp kept).2]
    · intro name member _
      obtain rfl := List.mem_singleton.mp member
      exact here

end TaskGraph

theorem Confined.agrees_pruned {graph : TaskGraph φ} {run : Run φ} (confined : Confined graph run)
    (engine : Engine φ) : run.Agrees engine graph.pruned := by
  obtain ⟨same, known, _, here⟩ := confined
  refine Run.Agrees.of_kept ?_ ?_ ?_
  · intro _
    rw [same, TaskGraph.pruned_startTask?, TaskGraph.map_namesake]
    intro start selected
    exact TaskGraph.pruned_namesake (TaskGraph.get?_of_mem (TaskGraph.startTask?_mem selected))
      (TaskGraph.start_mem_reachable selected)
  · exact fun task stands => TaskGraph.pruned_namesake (known task stands) (here task stands)
  · intro task outcome phase _ label target produced carried moves
    have stands := Run.task?_of_reporting phase
    obtain ⟨edge, member, _, onward⟩ := Task.edge_of_follow moves
    rw [same,
      TaskGraph.get?_pruned_of_edge (known task stands) (here task stands) member onward,
      TaskGraph.map_namesake]
    intro next found
    obtain rfl := (TaskGraph.mem_of_get? found).2
    exact TaskGraph.pruned_namesake found
      (TaskGraph.target_mem_reachable (known task stands) (here task stands) member onward found)

/-- A graph and what is left of it when its unreachable tasks are dropped have the same runs, turn
by turn, whatever the steps and the bus do. Nothing that is left is unreachable. -/
theorem pruning_changes_no_run (engine : Engine φ) (graph : TaskGraph φ) (input : Value)
    (context : Context) :
    graph.pruned.startTask? = graph.startTask? ∧
    (∀ turns, engine.run turns graph.pruned input context =
      (engine.run turns graph input context).recast graph.pruned) ∧
    ∀ name, .unreachable name ∉ graph.pruned.problems := by
  refine ⟨graph.pruned_startTask?, ?_, ?_⟩
  · exact Engine.recast_of_agrees fun turn =>
      (engine.confined graph input context turn).agrees_pruned engine
  · intro name reported
    obtain ⟨kept, missed⟩ := TaskGraph.unreachable_mem_problems_iff.mp reported
    rw [TaskGraph.pruned_reachable] at missed
    exact missed (TaskGraph.mem_pruned_names.mp kept).2

end Flowtrace
