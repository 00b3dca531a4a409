import Mathlib.Logic.Relation
import Flowtrace.Graph.Lint

/-! What the walk of a graph enters. The places that it has entered, together with those on its
stack, always hold every successor that exists, so that in the end it has entered all that can be
reached from its root, and it has entered nothing else. -/

namespace Flowtrace

namespace Walk

variable {α : Type} [DecidableEq α] {world : List α} {successors : α → List α}

theorem visited_subset_explore (visited stack : List α) :
    visited ⊆ explore world successors visited stack := by
  fun_induction explore world successors visited stack with
  | case1 visited => exact fun _ member => member
  | case2 visited place stack known ih => exact ih
  | case3 visited place stack unknown ih =>
    exact fun _ member => ih (List.mem_append_left _ member)

theorem mem_explore_of_stack (visited stack : List α) :
    ∀ place ∈ stack, place ∈ world → place ∈ explore world successors visited stack := by
  fun_induction explore world successors visited stack with
  | case1 visited => simp
  | case2 visited place stack known ih =>
    intro other member inside
    rcases List.mem_cons.mp member with rfl | deeper
    · rcases known with entered | outside
      · exact visited_subset_explore visited stack entered
      · exact absurd inside outside
    · exact ih other deeper inside
  | case3 visited place stack unknown ih =>
    intro other member inside
    rcases List.mem_cons.mp member with rfl | deeper
    · exact visited_subset_explore _ _ (List.mem_append_right _ (List.mem_singleton.mpr rfl))
    · exact ih other (List.mem_append_right _ deeper) inside

theorem explore_closed (visited stack : List α)
    (covered : ∀ place ∈ visited, ∀ next ∈ successors place, next ∈ world →
      next ∈ visited ∨ next ∈ stack) :
    ∀ place ∈ explore world successors visited stack, ∀ next ∈ successors place,
      next ∈ world → next ∈ explore world successors visited stack := by
  fun_induction explore world successors visited stack with
  | case1 visited =>
    intro place entered next follows inside
    simpa using covered place entered next follows inside
  | case2 visited place stack known ih =>
    apply ih
    intro other entered next follows inside
    rcases covered other entered next follows inside with before | waiting
    · exact .inl before
    · rcases List.mem_cons.mp waiting with rfl | deeper
      · exact known.elim .inl fun outside => absurd inside outside
      · exact .inr deeper
  | case3 visited place stack unknown ih =>
    apply ih
    intro other entered next follows inside
    rcases List.mem_append.mp entered with before | newest
    · rcases covered other before next follows inside with visited | waiting
      · exact .inl (List.mem_append_left _ visited)
      · rcases List.mem_cons.mp waiting with rfl | deeper
        · exact .inl (List.mem_append_right _ (List.mem_singleton.mpr rfl))
        · exact .inr (List.mem_append_right _ deeper)
    · obtain rfl := List.mem_singleton.mp newest
      exact .inr (List.mem_append_left _ follows)

/-- What holds of the places on the stack, and passes from each place to its successors, holds of
all that is entered. Places that do not exist are of no account. -/
theorem explore_induction {holds : α → Prop} (visited stack : List α)
    (passes : ∀ place, holds place → ∀ next ∈ successors place, next ∈ world → holds next)
    (entered : ∀ place ∈ visited, holds place)
    (waiting : ∀ place ∈ stack, place ∈ world → holds place) :
    ∀ place ∈ explore world successors visited stack, holds place := by
  fun_induction explore world successors visited stack with
  | case1 visited => exact entered
  | case2 visited place stack known ih =>
    exact ih entered fun other deeper => waiting other (List.mem_cons_of_mem place deeper)
  | case3 visited place stack unknown ih =>
    simp only [not_or, Decidable.not_not] at unknown
    have here := waiting place List.mem_cons_self unknown.2
    apply ih
    · intro other member
      rcases List.mem_append.mp member with before | newest
      · exact entered other before
      · obtain rfl := List.mem_singleton.mp newest
        exact here
    · intro other member inside
      rcases List.mem_append.mp member with follows | deeper
      · exact passes place here other follows inside
      · exact waiting other (List.mem_cons_of_mem place deeper) inside

theorem explore_nodup (visited stack : List α) (fresh : visited.Nodup) :
    (explore world successors visited stack).Nodup := by
  fun_induction explore world successors visited stack with
  | case1 visited => exact fresh
  | case2 visited place stack known ih => exact ih fresh
  | case3 visited place stack unknown ih =>
    apply ih
    rw [List.nodup_append]
    refine ⟨fresh, by simp, ?_⟩
    intro other before newest member same
    obtain rfl := List.mem_singleton.mp member
    subst same
    exact unknown (.inl before)

theorem order_nodup (root : α) : (order world successors root).Nodup :=
  explore_nodup [] [root] List.nodup_nil

def Joins (world : List α) (successors : α → List α) (place next : α) : Prop :=
  next ∈ successors place ∧ next ∈ world

theorem root_mem_order {root : α} (inside : root ∈ world) :
    root ∈ order world successors root :=
  mem_explore_of_stack [] [root] root (List.mem_singleton.mpr rfl) inside

theorem order_closed {root place next : α} (entered : place ∈ order world successors root)
    (follows : next ∈ successors place) (inside : next ∈ world) :
    next ∈ order world successors root :=
  explore_closed [] [root] (by simp) place entered next follows inside

/-- A walk enters exactly what a path of links leads to. -/
theorem mem_order_iff {root : α} (inside : root ∈ world) (place : α) :
    place ∈ order world successors root ↔
      Relation.ReflTransGen (Joins world successors) root place := by
  constructor
  · refine fun entered => explore_induction [] [root] ?_ ?_ ?_ place entered
    · exact fun _ path _ follows inside => path.tail ⟨follows, inside⟩
    · simp
    · intro other member _
      obtain rfl := List.mem_singleton.mp member
      exact .refl
  · intro path
    induction path with
    | refl => exact root_mem_order inside
    | tail _ joins ih => exact order_closed ih joins.1 joins.2

theorem mem_world_of_order {root place : α} (entered : place ∈ order world successors root) :
    place ∈ world := by
  refine explore_induction [] [root] ?_ ?_ ?_ place entered
  · exact fun _ _ _ _ inside => inside
  · simp
  · exact fun _ _ inside => inside

/-- The walk within a budget of turns, each of which takes one place off the stack. It gives no
result if the budget runs out. -/
def search (world : List α) (successors : α → List α) : Nat → List α → List α → Option (List α)
  | _, visited, [] => some visited
  | 0, _, _ :: _ => none
  | turns + 1, visited, place :: stack =>
    if place ∈ visited ∨ place ∉ world then search world successors turns visited stack
    else search world successors turns (visited ++ [place]) (successors place ++ stack)

/-- Every place on the stack costs one turn, and so does every link of a place that is entered. -/
theorem search_explore (visited stack : List α) :
    ∃ entered, explore world successors visited stack = visited ++ entered ∧
      ∀ turns, stack.length + (entered.flatMap successors).length ≤ turns →
        search world successors turns visited stack = some (visited ++ entered) := by
  fun_induction explore world successors visited stack with
  | case1 visited =>
    refine ⟨[], (List.append_nil visited).symm, fun turns _ => ?_⟩
    cases turns <;> simp [search]
  | case2 visited place stack known ih =>
    obtain ⟨entered, same, enough⟩ := ih
    refine ⟨entered, same, fun turns large => ?_⟩
    cases turns with
    | zero => simp at large
    | succ turns =>
      rw [List.length_cons] at large
      rw [search, if_pos known]
      exact enough turns (by omega)
  | case3 visited place stack unknown ih =>
    obtain ⟨entered, same, enough⟩ := ih
    refine ⟨place :: entered, by simpa using same, fun turns large => ?_⟩
    cases turns with
    | zero => simp at large
    | succ turns =>
      rw [List.length_cons, List.flatMap_cons, List.length_append] at large
      rw [search, if_neg unknown, enough turns (by rw [List.length_append]; omega)]
      simp

theorem search_order {root : α} {turns : Nat}
    (enough : 1 + ((order world successors root).flatMap successors).length ≤ turns) :
    search world successors turns [] [root] = some (order world successors root) := by
  obtain ⟨entered, same, ends⟩ := @search_explore α _ world successors [] [root]
  rw [List.nil_append] at same
  rw [order, same] at enough ⊢
  exact ends turns enough

end Walk

namespace TaskGraph

variable {φ : Type} {graph : TaskGraph φ}

theorem name_mem_of_get? {name : String} {task : Task φ} (found : graph.get? name = some task) :
    name ∈ graph.names := by
  obtain ⟨member, same⟩ := mem_of_get? found
  exact List.mem_map.mpr ⟨task, member, same⟩

theorem start_mem_reachable {start : Task φ} (selected : graph.startTask? = some start) :
    start.name ∈ graph.reachable := by
  rw [reachable, selected]
  exact Walk.root_mem_order (List.mem_map.mpr ⟨start, startTask?_mem selected, rfl⟩)

/-- An edge that leads to a task leads from what is reachable to what is reachable. -/
theorem target_mem_reachable {task next : Task φ} {edge : Edge} {target : String}
    (known : graph.get? task.name = some task) (reached : task.name ∈ graph.reachable)
    (member : edge ∈ task.edges) (onward : edge.target = some target)
    (found : graph.get? target = some next) : target ∈ graph.reachable := by
  unfold reachable at reached ⊢
  cases selected : graph.startTask? with
  | none => simp [selected] at reached
  | some start =>
    simp only [selected] at reached
    apply Walk.order_closed reached _ (name_mem_of_get? found)
    rw [targetsOf, known]
    exact List.mem_filterMap.mpr ⟨edge, member, onward⟩

theorem unreachable_mem_reachProblems_iff {name : String} :
    .unreachable name ∈ graph.reachProblems ↔ name ∈ graph.names ∧ name ∉ graph.reachable := by
  constructor
  · intro member
    obtain ⟨task, kept, same⟩ := List.mem_map.mp member
    obtain ⟨inside, missed⟩ := List.mem_filter.mp kept
    cases same
    exact ⟨List.mem_map.mpr ⟨task, inside, rfl⟩, of_decide_eq_true missed⟩
  · rintro ⟨known, missed⟩
    obtain ⟨task, inside, rfl⟩ := List.mem_map.mp known
    exact List.mem_map.mpr ⟨task, List.mem_filter.mpr ⟨inside, decide_eq_true missed⟩, rfl⟩

theorem unreachable_not_mem_others (name : String) :
    .unreachable name ∉ graph.startProblems ++ graph.targetProblems ++ graph.branchProblems := by
  simp only [List.mem_append, not_or]
  refine ⟨⟨?_, ?_⟩, ?_⟩
  · intro member
    simp only [startProblems] at member
    split at member <;> simp at member
  · intro member
    obtain ⟨edge, _, made⟩ := List.mem_filterMap.mp member
    split at made
    · split at made <;> cases made
    · cases made
  · intro member
    obtain ⟨task, _, made⟩ := List.mem_filterMap.mp member
    split at made
    · split at made <;> cases made
    · cases made

theorem unreachable_mem_problems_iff {name : String} :
    .unreachable name ∈ graph.problems ↔ name ∈ graph.names ∧ name ∉ graph.reachable := by
  unfold problems
  cases selected : graph.startTask? with
  | none =>
    have empty := startTask?_eq_none.mp selected
    simp [names, empty]
  | some start =>
    rw [List.mem_append, or_iff_right (unreachable_not_mem_others name),
      unreachable_mem_reachProblems_iff]

theorem start_of_no_problems (clean : graph.problems = []) :
    ∃ start, graph.startTask? = some start := by
  unfold problems at clean
  cases selected : graph.startTask? with
  | none => simp [selected] at clean
  | some start => exact ⟨start, rfl⟩

theorem target_of_no_problems (clean : graph.problems = []) {edge : Edge}
    (member : edge ∈ graph.edges) {target : String} (onward : edge.target = some target) :
    ∃ task, graph.get? target = some task := by
  obtain ⟨start, selected⟩ := start_of_no_problems clean
  simp only [problems, selected, List.append_eq_nil_iff, targetProblems,
    List.filterMap_eq_nil_iff] at clean
  have passed := clean.1.1.2 edge member
  cases found : graph.get? target with
  | none => simp [onward, contains, found] at passed
  | some task => exact ⟨task, rfl⟩

/-- A graph with a task to start from, all of whose pointers lead to its own tasks or to the end of
the workflow. -/
structure Closed (graph : TaskGraph φ) : Prop where
  inhabited : graph.tasks ≠ []
  leads : ∀ task ∈ graph.tasks, ∀ edge ∈ task.edges, ∀ target, edge.target = some target →
    graph.contains target = true

theorem closed_of_no_problems (clean : graph.problems = []) : graph.Closed where
  inhabited := by
    intro empty
    obtain ⟨start, selected⟩ := start_of_no_problems clean
    rw [startTask?_eq_none.mpr empty] at selected
    cases selected
  leads := by
    intro task inside edge member target onward
    have listed : edge ∈ graph.edges := List.mem_flatMap.mpr ⟨task, inside, member⟩
    obtain ⟨next, found⟩ := target_of_no_problems clean listed onward
    simp [contains, found]

end TaskGraph

end Flowtrace
