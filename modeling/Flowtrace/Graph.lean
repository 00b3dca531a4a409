import Flowtrace.Graph.Task
import Flowtrace.Value.Text

/-! Task graphs: tasks with distinct names in a fixed order. Of several definitions with one name
the first counts and the others are dropped, start flags included. -/

namespace Flowtrace

structure TaskGraph (φ : Type) where
  tasks : List (Task φ)
  distinct : (tasks.map (·.name)).Nodup
deriving DecidableEq

namespace TaskGraph

variable {φ : Type}

def firstOfEachName : List (Task φ) → List (Task φ)
  | [] => []
  | task :: rest => task :: (firstOfEachName rest).filter fun other => other.name != task.name

theorem firstOfEachName_distinct (definitions : List (Task φ)) :
    ((firstOfEachName definitions).map (·.name)).Nodup := by
  induction definitions with
  | nil => simp [firstOfEachName]
  | cons task rest ih =>
    simp only [firstOfEachName, List.map_cons, List.nodup_cons, List.mem_map, List.mem_filter]
    constructor
    · rintro ⟨other, ⟨_, differs⟩, same⟩
      simp [same] at differs
    · exact (List.filter_sublist.map _).nodup ih

theorem firstOfEachName_sublist (definitions : List (Task φ)) :
    (firstOfEachName definitions).Sublist definitions := by
  induction definitions with
  | nil => exact List.Sublist.slnil
  | cons task rest ih => exact (List.filter_sublist.trans ih).cons_cons task

theorem find?_firstOfEachName (definitions : List (Task φ)) (name : String) :
    (firstOfEachName definitions).find? (fun task => task.name == name) =
      definitions.find? fun task => task.name == name := by
  induction definitions with
  | nil => rfl
  | cons task rest ih =>
    by_cases same : task.name = name
    · simp [firstOfEachName, same]
    · have passed : (fun other : Task φ =>
          decide ((other.name != task.name) = true ∧ (other.name == name) = true)) =
            fun other => other.name == name := by
        funext other
        by_cases wanted : other.name = name
        · have differs : name ≠ task.name := fun equal => same equal.symm
          simp [wanted, differs]
        · simp [wanted]
      simp only [firstOfEachName, List.find?_cons, beq_false_of_ne same, List.find?_filter, passed]
      exact ih

theorem firstOfEachName_filter (keep : String → Bool) (definitions : List (Task φ)) :
    firstOfEachName (definitions.filter fun task => keep task.name) =
      (firstOfEachName definitions).filter fun task => keep task.name := by
  induction definitions with
  | nil => rfl
  | cons task rest ih =>
    cases kept : keep task.name with
    | true =>
      simp only [List.filter_cons, kept, if_true, firstOfEachName, ih, List.filter_filter]
      congr 2
      funext other
      exact Bool.and_comm _ _
    | false =>
      simp only [List.filter_cons, kept, Bool.false_eq_true, if_false, firstOfEachName, ih,
        List.filter_filter]
      congr 1
      funext other
      by_cases same : other.name = task.name
      · simp [same, kept]
      · simp [same]

theorem firstOfEachName_append (first second : List (Task φ)) :
    firstOfEachName (first ++ second) =
      firstOfEachName first ++
        (firstOfEachName second).filter fun task => decide (task.name ∉ first.map (·.name)) := by
  induction first with
  | nil =>
    rw [List.filter_eq_self.2 (by simp)]
    rfl
  | cons task rest ih =>
    simp only [List.cons_append, firstOfEachName, ih, List.filter_append, List.filter_filter]
    congr 3
    funext other
    simp [not_or, bne, Bool.beq_eq_decide_eq]

theorem firstOfEachName_of_distinct {definitions : List (Task φ)}
    (distinct : (definitions.map (·.name)).Nodup) : firstOfEachName definitions = definitions := by
  induction definitions with
  | nil => rfl
  | cons task rest ih =>
    obtain ⟨fresh, later⟩ := List.nodup_cons.1 distinct
    have kept : ∀ other ∈ rest, (other.name != task.name) = true := by
      intro other member
      have differs : other.name ≠ task.name := fun same =>
        fresh (List.mem_map.2 ⟨other, member, same⟩)
      simp [differs]
    rw [firstOfEachName, ih later, List.filter_eq_self.2 kept]

def ofList (definitions : List (Task φ)) : TaskGraph φ where
  tasks := firstOfEachName definitions
  distinct := firstOfEachName_distinct definitions

def names (graph : TaskGraph φ) : List String := graph.tasks.map (·.name)

def size (graph : TaskGraph φ) : Nat := graph.tasks.length

def get? (graph : TaskGraph φ) (name : String) : Option (Task φ) :=
  graph.tasks.find? fun task => task.name == name

def contains (graph : TaskGraph φ) (name : String) : Bool := (graph.get? name).isSome

/-- The task at a position; a negative position counts from the end. -/
def at? (graph : TaskGraph φ) (position : Int) : Option (Task φ) :=
  let index := if position < 0 then position + graph.size else position
  if index < 0 then none else graph.tasks[index.toNat]?

def findAt (graph : TaskGraph φ) (position : Int) : Except Fault (Task φ) :=
  match graph.at? position with
  | some task => .ok task
  | none => .error (.exception "IndexError" "tuple index out of range")

/-- The first task that is flagged as start, or else the first task. -/
def startTask? (graph : TaskGraph φ) : Option (Task φ) :=
  (graph.tasks.find? (·.start)).or graph.tasks.head?

def isStart (graph : TaskGraph φ) (task : Task φ) : Bool :=
  (graph.startTask?.map (·.name)) == some task.name

def edges (graph : TaskGraph φ) : List Edge := graph.tasks.flatMap Task.edges

def equivalent [BEq φ] (left right : TaskGraph φ) : Bool :=
  left.size == right.size && (left.tasks.zip right.tasks).all fun pair => pair.1.equivalent pair.2

theorem mem_of_get? {graph : TaskGraph φ} {name : String} {task : Task φ}
    (found : graph.get? name = some task) : task ∈ graph.tasks ∧ task.name = name :=
  ⟨List.mem_of_find?_eq_some found, by simpa using List.find?_some found⟩

theorem get?_of_mem {graph : TaskGraph φ} {task : Task φ} (member : task ∈ graph.tasks) :
    graph.get? task.name = some task := by
  have general : ∀ tasks : List (Task φ), (tasks.map (·.name)).Nodup → task ∈ tasks →
      tasks.find? (fun other => other.name == task.name) = some task := by
    intro tasks
    induction tasks with
    | nil => simp
    | cons first rest ih =>
      intro distinct inside
      obtain ⟨fresh, later⟩ := List.nodup_cons.1 distinct
      rcases List.mem_cons.1 inside with rfl | deeper
      · simp
      · have other : first.name ≠ task.name := fun same =>
          fresh (List.mem_map.2 ⟨task, deeper, same.symm⟩)
        simp [other, ih later deeper]
  exact general graph.tasks graph.distinct member

theorem get?_ofList (definitions : List (Task φ)) (name : String) :
    (ofList definitions).get? name = definitions.find? fun task => task.name == name :=
  find?_firstOfEachName definitions name

theorem mem_of_mem_ofList {definitions : List (Task φ)} {task : Task φ}
    (member : task ∈ (ofList definitions).tasks) : task ∈ definitions :=
  (firstOfEachName_sublist definitions).mem member

theorem startTask?_mem {graph : TaskGraph φ} {task : Task φ}
    (start : graph.startTask? = some task) : task ∈ graph.tasks := by
  rcases Option.or_eq_some_iff.1 start with flagged | ⟨_, first⟩
  · exact List.mem_of_find?_eq_some flagged
  · exact List.mem_of_mem_head? first

theorem startTask?_eq_none {graph : TaskGraph φ} : graph.startTask? = none ↔ graph.tasks = [] := by
  constructor
  · intro missing
    simpa using (Option.or_eq_none_iff.1 missing).2
  · intro empty
    simp [startTask?, empty]

def text (graph : TaskGraph φ) : String :=
  "TaskGraph(" ++ (Value.list (graph.names.map .text)).plain ++ ")"

end TaskGraph

end Flowtrace
