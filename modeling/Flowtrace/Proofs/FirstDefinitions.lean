import Mathlib.Data.List.Induction
import Flowtrace.Proofs.Collected
import Flowtrace.Proofs.Preorder

/-! The two views of a graph. Whoever lists the tasks of a graph reads them in a row, and whoever
follows a pointer looks them up by name. Both views are filled from one list of definitions, which
may define a name again and again, and both keep the first definition of each. Nothing that is
defined later under the same name is in either of them, so no run knows of it. -/

namespace Flowtrace

variable {φ : Type}

def OrderedMap.insertNew {κ α : Type} [DecidableEq κ] (map : OrderedMap κ α) (key : κ) (value : α) :
    OrderedMap κ α :=
  if map.contains key then map else map.insert key value

/-- What an engine is given to run: a graph, or definitions that are still to be made one. -/
inductive Runnable (φ : Type) where
  | made (graph : TaskGraph φ)
  | listed (definitions : List (Task φ))

def Runnable.toGraph : Runnable φ → TaskGraph φ
  | .made graph => graph
  | .listed definitions => .ofList definitions

def Engine.runOf (engine : Engine φ) (turns : Nat) (tasks : Runnable φ) (input : Value)
    (context : Context) : Run φ :=
  engine.run turns tasks.toGraph input context

def Engine.visitsOf (engine : Engine φ) (turns : Nat) (tasks : Runnable φ) (input : Value)
    (context : Context) : List (Visit φ) :=
  engine.visits turns tasks.toGraph input context

def firstNamed (definitions : List (Task φ)) (name : String) : Option (Task φ) :=
  definitions.find? fun task => task.name == name

namespace TaskGraph

def index (definitions : List (Task φ)) : OrderedMap String (Task φ) :=
  definitions.foldl (fun map task => map.insertNew task.name task) .empty

structure Views (graph : TaskGraph φ) (definitions : List (Task φ)) : Prop where
  distinct : graph.names.Nodup
  order : graph.names = (definitions.map (·.name)).eraseDups
  row : graph.tasks = (index definitions).values
  lookup : ∀ name, graph.get? name = (index definitions).get? name
  contains : ∀ name, graph.contains name = true ↔ ∃ task ∈ definitions, task.name = name
  first : ∀ name, graph.get? name = firstNamed definitions name
  position : ∀ name task, graph.get? name = some task →
    ∃ position : Int, 0 ≤ position ∧ position < graph.size ∧ graph.at? position = some task ∧
      ∀ other : Int, 0 ≤ other → (graph.at? other).map (·.name) = some name → other = position

end TaskGraph

/-- The task that definitions start from, which is the first definition of its name. It is flagged
as start, or it is the first of all and no first definition is flagged. -/
structure StartsFrom (definitions : List (Task φ)) (task : Task φ) : Prop where
  first : firstNamed definitions task.name = some task
  chosen : task.start = true ∨ definitions.head? = some task ∧
    ∀ name other, firstNamed definitions name = some other → other.start = false

/-- Definitions that differ, if at all, in definitions of names that were defined before. -/
structure SameFirsts (others definitions : List (Task φ)) : Prop where
  order : (others.map (·.name)).eraseDups = (definitions.map (·.name)).eraseDups
  first : ∀ name, firstNamed others name = firstNamed definitions name

namespace TaskGraph

variable {graph : TaskGraph φ}

theorem names_ofList (definitions : List (Task φ)) :
    (ofList definitions).names = (definitions.map (·.name)).eraseDups := by
  have general : (firstOfEachName definitions).map (·.name) =
      (definitions.map (·.name)).eraseDups := by
    induction definitions using List.reverseRecOn with
    | nil => rfl
    | append_singleton definitions task ih =>
      rw [firstOfEachName_concat, List.map_append, List.eraseDups_append, ← ih]
      by_cases known : task.name ∈ definitions.map (·.name)
      · rw [if_pos known]
        generalize definitions.map (·.name) = earlier at known
        simp [List.removeAll, known]
      · rw [if_neg known]
        generalize definitions.map (·.name) = earlier at known
        simp [List.removeAll, known, List.eraseDups_cons]
  exact general

theorem mem_names_ofList {definitions : List (Task φ)} {name : String} :
    name ∈ (ofList definitions).names ↔ name ∈ definitions.map (·.name) := by
  rw [names_ofList, List.mem_eraseDups]

theorem index_concat (definitions : List (Task φ)) (task : Task φ) :
    index (definitions ++ [task]) = (index definitions).insertNew task.name task := by
  simp [index]

/-- Filling the index name by name leaves the tasks of the graph in their order. -/
theorem entries_index (definitions : List (Task φ)) :
    (index definitions).entries =
      (ofList definitions).tasks.map fun task => (task.name, task) := by
  induction definitions using List.reverseRecOn with
  | nil => rfl
  | append_singleton definitions task ih =>
    have keys : (index definitions).keys = (ofList definitions).names := by
      rw [OrderedMap.keys, ih, List.map_map]
      rfl
    have grown : (ofList (definitions ++ [task])).tasks = _ :=
      firstOfEachName_concat definitions task
    rw [index_concat, OrderedMap.insertNew, grown]
    by_cases known : task.name ∈ definitions.map (·.name)
    · have held : (index definitions).contains task.name = true := by
        rw [← OrderedMap.mem_keys_iff, keys]
        exact mem_names_ofList.mpr known
      rw [if_pos held, if_pos known, ih]
      rfl
    · have absent : task.name ∉ (index definitions).keys := by
        rw [keys]
        exact mt mem_names_ofList.mp known
      have fresh := mt (OrderedMap.mem_keys_iff _ _).mpr absent
      rw [if_neg fresh, if_neg known, OrderedMap.entries_insert_of_absent _ _ absent, ih,
        List.map_append]
      rfl

theorem get?_index (definitions : List (Task φ)) (name : String) :
    (index definitions).get? name = (ofList definitions).get? name := by
  apply Option.ext
  intro task
  rw [OrderedMap.get?_eq_some_iff, entries_index, List.mem_map]
  constructor
  · rintro ⟨kept, member, same⟩
    obtain ⟨rfl, rfl⟩ := Prod.mk.inj same
    exact get?_of_mem member
  · intro found
    obtain ⟨member, rfl⟩ := mem_of_get? found
    exact ⟨task, member, rfl⟩

theorem position_of_get? {name : String} {task : Task φ} (found : graph.get? name = some task) :
    ∃ position : Int, 0 ≤ position ∧ position < graph.size ∧ graph.at? position = some task ∧
      ∀ other : Int, 0 ≤ other → (graph.at? other).map (·.name) = some name →
        other = position := by
  have within : ∀ position : Int, 0 ≤ position →
      graph.at? position = graph.tasks[position.toNat]? := by
    intro position inside
    simp only [at?, if_neg (Int.not_lt.mpr inside)]
  obtain ⟨member, rfl⟩ := mem_of_get? found
  obtain ⟨position, held⟩ := List.getElem?_of_mem member
  have bound := (List.getElem?_eq_some_iff.mp held).1
  have named : graph.names[position]? = some task.name := by
    rw [names, List.getElem?_map, held, Option.map_some]
  refine ⟨position, Int.natCast_nonneg position, Int.ofNat_lt.mpr bound, ?_, ?_⟩
  · rw [within position (Int.natCast_nonneg position), Int.toNat_natCast, held]
  · intro other inside again
    rw [within other inside, ← List.getElem?_map] at again
    have also := (List.getElem?_eq_some_iff.mp again).1
    have same := (List.getElem?_inj also graph.distinct).mp (again.trans named.symm)
    omega

theorem views_ofList (definitions : List (Task φ)) : (ofList definitions).Views definitions where
  distinct := (ofList definitions).distinct
  order := names_ofList definitions
  row := by
    rw [OrderedMap.values, entries_index, List.map_map]
    exact (List.map_id _).symm
  lookup := fun name => (get?_index definitions name).symm
  contains := by
    intro name
    rw [contains, get?_ofList, List.find?_isSome]
    simp only [beq_iff_eq]
  first := get?_ofList definitions
  position := fun _ _ => position_of_get?

theorem ofList_tasks (graph : TaskGraph φ) : ofList graph.tasks = graph := by
  have tasks : (ofList graph.tasks).tasks = graph.tasks := firstOfEachName_of_distinct graph.distinct
  exact (TaskGraph.mk.injEq _ _ _ _).mpr tasks

theorem filterMap_names (graph : TaskGraph φ) : graph.names.filterMap graph.get? = graph.tasks := by
  have found : graph.tasks.filterMap (fun task => graph.get? task.name) =
      graph.tasks.filterMap some :=
    List.filterMap_congr fun task member => get?_of_mem member
  rw [names, List.filterMap_map]
  exact found.trans List.filterMap_some

theorem ofList_eq_iff {others definitions : List (Task φ)} :
    ofList others = ofList definitions ↔ SameFirsts others definitions := by
  constructor
  · intro same
    refine ⟨?_, fun name => ?_⟩
    · rw [← names_ofList, ← names_ofList, same]
    · rw [firstNamed, firstNamed, ← get?_ofList, ← get?_ofList, same]
  · intro ⟨order, first⟩
    have tasks : (ofList others).tasks = (ofList definitions).tasks := by
      have get? : (ofList others).get? = (ofList definitions).get? := by
        funext name
        rw [get?_ofList, get?_ofList]
        exact first name
      rw [← filterMap_names, ← filterMap_names, names_ofList, names_ofList, order, get?]
    exact (TaskGraph.mk.injEq _ _ _ _).mpr tasks

theorem equivalent_self [BEq φ] [ReflBEq φ] (graph : TaskGraph φ) :
    graph.equivalent graph = true := by
  have entries : ∀ map : OrderedMap String Pointer, map.sameEntries map = true := by
    intro map
    have found : ∀ entry ∈ map.entries, map.get? entry.1 = some entry.2 :=
      fun entry member => (map.get?_eq_some_iff entry.1 entry.2).mpr member
    simpa [OrderedMap.sameEntries] using found
  have routing : ∀ routing : Routing, routing.equivalent routing = true := by
    intro routing
    cases routing with
    | activity next catches => cases catches <;> simp [Routing.equivalent, entries]
    | choice branches => exact entries branches
  have task : ∀ task : Task φ, task.equivalent task = true := by
    intro task
    simp [Task.equivalent, routing]
  have paired : ∀ tasks : List (Task φ),
      ((tasks.zip tasks).all fun pair => pair.1.equivalent pair.2) = true := by
    intro tasks
    induction tasks with
    | nil => rfl
    | cons first rest ih =>
      rw [List.zip_cons_cons, List.all_cons, ih, Bool.and_true]
      exact task first
  rw [equivalent, paired, beq_self_eq_true, Bool.and_true]

theorem head?_ofList (definitions : List (Task φ)) :
    (ofList definitions).tasks.head? = definitions.head? := by
  cases definitions <;> rfl

theorem startsFrom_of_startTask? {definitions : List (Task φ)} {task : Task φ}
    (start : (ofList definitions).startTask? = some task) : StartsFrom definitions task where
  first := (get?_ofList definitions task.name).symm.trans (get?_of_mem (startTask?_mem start))
  chosen := by
    rcases Option.or_eq_some_iff.mp start with flagged | ⟨unflagged, head⟩
    · exact .inl (List.find?_some flagged)
    · refine .inr ⟨(head?_ofList definitions).symm.trans head, fun name other first => ?_⟩
      have kept := (mem_of_get? ((get?_ofList definitions name).trans first)).1
      exact Bool.eq_false_iff.mpr (List.find?_eq_none.mp unflagged other kept)

end TaskGraph

/-- A definition of a name that was defined before can be left out. -/
theorem sameFirsts_of_namesake {before after : List (Task φ)} {task : Task φ}
    (known : task.name ∈ before.map (·.name)) :
    SameFirsts (before ++ after) (before ++ task :: after) where
  order := by
    rw [List.map_append, List.map_append, List.map_cons, List.eraseDups_append,
      List.eraseDups_append]
    generalize before.map (·.name) = earlier at known
    simp [List.removeAll, known]
  first := by
    intro name
    rw [firstNamed, firstNamed, List.find?_append, List.find?_append]
    by_cases same : task.name = name
    · obtain ⟨namesake, member, named⟩ := List.mem_map.mp known
      have found : (before.find? fun other => other.name == name).isSome = true :=
        List.find?_isSome.mpr ⟨namesake, member, beq_iff_eq.mpr (named.trans same)⟩
      obtain ⟨first, held⟩ := Option.isSome_iff_exists.mp found
      rw [held, Option.some_or, Option.some_or]
    · rw [List.find?_cons_of_neg (by simpa using same)]

section Runs

variable {engine : Engine φ} {definitions : List (Task φ)} {input : Value} {context : Context}
  {turns : Nat} {visit : Visit φ}

theorem firstNamed_of_visit
    (made : visit ∈ engine.visitsOf turns (.listed definitions) input context) :
    firstNamed definitions visit.task.name = some visit.task := by
  obtain ⟨position, called⟩ := List.getElem?_of_mem made
  obtain ⟨history, journey⟩ := Engine.journey_of_visit called
  have known := journey.visited_task visit (List.mem_append_right _ (List.mem_singleton.mpr rfl))
  exact (TaskGraph.get?_ofList definitions visit.task.name).symm.trans known

theorem startsFrom_of_visit
    (made : (engine.visitsOf turns (.listed definitions) input context)[0]? = some visit) :
    StartsFrom definitions visit.task := by
  obtain ⟨history, journey⟩ := Engine.journey_of_visit made
  obtain ⟨task, start, _, called⟩ := journey.head
  rw [List.take_zero, List.nil_append] at called
  obtain rfl := Option.some.inj called
  exact TaskGraph.startsFrom_of_startTask? start

end Runs

/-- A list of definitions is a graph of the first definition of each name, in the order in which the
names come first, and the row of tasks and the index by name agree on it. Made a graph once more,
the tasks of a graph are the same graph. To run the definitions is to run their graph: each task
that is called is the first definition of its name, as is the one that is started from, and
definitions of names that were defined before can be changed or left out without any run of it. -/
theorem first_definitions_make_the_graph (definitions : List (Task φ)) :
    (TaskGraph.ofList definitions).Views definitions ∧
    TaskGraph.ofList (TaskGraph.ofList definitions).tasks = TaskGraph.ofList definitions ∧
    (∀ [BEq φ] [ReflBEq φ], (TaskGraph.ofList (TaskGraph.ofList definitions).tasks).equivalent
      (TaskGraph.ofList definitions) = true) ∧
    (∀ before task after, definitions = before ++ task :: after →
      task.name ∈ before.map (·.name) → SameFirsts (before ++ after) definitions) ∧
    ∀ (engine : Engine φ) (turns : Nat) (input : Value) (context : Context),
      engine.runOf turns (.listed definitions) input context =
        engine.runOf turns (.made (.ofList definitions)) input context ∧
      (∀ visit ∈ engine.visitsOf turns (.listed definitions) input context,
        firstNamed definitions visit.task.name = some visit.task) ∧
      (∀ visit, (engine.visitsOf turns (.listed definitions) input context)[0]? = some visit →
        StartsFrom definitions visit.task) ∧
      ∀ others, SameFirsts others definitions →
        engine.runOf turns (.listed others) input context =
          engine.runOf turns (.listed definitions) input context := by
  refine ⟨TaskGraph.views_ofList definitions, TaskGraph.ofList_tasks _, ?_, ?_, ?_⟩
  · intro _ _
    rw [TaskGraph.ofList_tasks]
    exact TaskGraph.equivalent_self _
  · intro before task after split known
    rw [split]
    exact sameFirsts_of_namesake known
  · intro engine turns input context
    refine ⟨rfl, fun visit => firstNamed_of_visit, fun visit => startsFrom_of_visit, ?_⟩
    intro others same
    have graphs := TaskGraph.ofList_eq_iff.mpr same
    rw [Engine.runOf, Engine.runOf, Runnable.toGraph, Runnable.toGraph, graphs]

def Retry.repeated : List (Task Step) :=
  [recover, fetch, { recover with start := true, routing := .activity none none }, check,
    { fetch with start := false, routing := .activity none none }]

theorem retry_runs_first_definitions :
    (TaskGraph.ofList Retry.repeated).names = ["recover", "fetch", "check"] ∧
      (∃ position : Int, (TaskGraph.ofList Retry.repeated).at? position = some Retry.fetch ∧
        ∀ other : Int, 0 ≤ other →
          ((TaskGraph.ofList Retry.repeated).at? other).map (·.name) = some "fetch" →
          other = position) ∧
      (∃ visit, (Retry.engine.visitsOf 14 (.listed Retry.repeated) .null
          (Retry.reply "found"))[0]? = some visit ∧
        firstNamed Retry.repeated visit.task.name = some visit.task ∧
        StartsFrom Retry.repeated visit.task) ∧
      SameFirsts [Retry.recover, Retry.fetch, Retry.check,
        { Retry.fetch with start := false, routing := .activity none none }] Retry.repeated ∧
      Retry.engine.runOf 14 (.listed [Retry.recover, Retry.fetch, Retry.check,
          { Retry.fetch with start := false, routing := .activity none none }]) .null
          (Retry.reply "found") =
        Retry.engine.runOf 14 (.listed Retry.repeated) .null (Retry.reply "found") := by
  obtain ⟨views, _, _, leaves, runs⟩ := first_definitions_make_the_graph Retry.repeated
  obtain ⟨_, firsts, starts, same⟩ := runs Retry.engine 14 .null (Retry.reply "found")
  have less := leaves [Retry.recover, Retry.fetch] _ _ rfl (by decide)
  obtain ⟨position, _, _, held, once⟩ := views.position "fetch" Retry.fetch rfl
  refine ⟨views.order.trans (by decide), ⟨position, held, once⟩, ⟨_, rfl, ?_, ?_⟩, less,
    same _ less⟩
  · exact firsts _ (List.mem_of_getElem? (i := 0) rfl)
  · exact starts _ rfl

end Flowtrace
