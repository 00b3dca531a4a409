import Flowtrace.Proofs.Preorder
import Flowtrace.Proofs.WellFormedness

/-! Networks whose builders have names of their own. The graph of such a network is the network:
each builder that is reached is a task, each of its links is an edge, and following the edge by
name comes to the task of the builder that the link leads to by position. So the lint, which walks
the graph by name, comes to every task that flattening came to by position. -/

namespace Flowtrace

variable {φ : Type}

/-- The links of a builder. An activity always has one for success, if only to the end. -/
def Links.declared : Links → List Link
  | .activity next catches =>
    .next next :: catches.entries.map fun entry => .caught entry.1 entry.2
  | .choice branches => branches.entries.map fun entry => .branch entry.1 entry.2

def Builder.isBranchless (builder : Builder φ) : Bool :=
  match builder.links with
  | .activity .. => false
  | .choice branches => branches.isEmpty

namespace Network

def edge (network : Network φ) (builder : Builder φ) : Link → Edge
  | .next target => ⟨builder.name, thenLabel, network.targetName target, .next⟩
  | .caught pattern target => ⟨builder.name, pattern, network.targetName target, .caught⟩
  | .branch key target => ⟨builder.name, key, network.targetName target, .choice⟩

def UniquelyNamed (network : Network φ) (root : Nat) : Prop :=
  ∀ position other builder namesake, network.Reaches root position → network.Reaches root other →
    network.builder? position = some builder → network.builder? other = some namesake →
    builder.name = namesake.name → position = other

def StartsOnlyAt (network : Network φ) (root : Nat) : Prop :=
  ∀ position builder, network.Reaches root position → network.builder? position = some builder →
    builder.start = true → position = root

/-- The graph of what is reached from a builder has its builders, in their order, for tasks, and
their links for edges. An edge leads to the task of the builder that the link leads to. -/
structure Mirrored (network : Network φ) (root : Nat) (positions : List Nat)
    (builders : List (Builder φ)) : Prop where
  once : positions.Nodup
  reached : ∀ position, position ∈ positions ↔ network.Reaches root position
  held : List.Forall₂ (fun position builder => network.builder? position = some builder)
    positions builders
  tasks : (network.graph root).tasks = builders.map network.definition
  edges : (network.graph root).edges =
    builders.flatMap fun builder => builder.links.declared.map (network.edge builder)
  ends : ∀ builder ∈ builders, ∀ link ∈ builder.links.declared, link.target = none →
    (network.edge builder link).target = none
  leads : ∀ builder ∈ builders, ∀ link ∈ builder.links.declared, ∀ next,
    link.target = some next → next ∈ positions ∧ ∃ linked,
      network.builder? next = some linked ∧
      (network.edge builder link).target = some linked.name ∧
      (network.graph root).get? linked.name = some (network.definition linked)

variable {network : Network φ} {root position : Nat}

theorem edges_definition (network : Network φ) (builder : Builder φ) :
    (network.definition builder).edges = builder.links.declared.map (network.edge builder) := by
  cases links : builder.links with
  | activity next catches =>
    simp [definition, routing, links, Task.edges, OrderedMap.entries_unless_empty, Links.declared,
      edge, Function.comp_def]
  | choice branches =>
    simp [definition, routing, links, Task.edges, OrderedMap.mapValues, Links.declared, edge,
      Function.comp_def]

theorem edge_source (builder : Builder φ) (link : Link) :
    (network.edge builder link).source = builder.name := by
  cases link <;> rfl

theorem edge_target (builder : Builder φ) (link : Link) :
    (network.edge builder link).target = network.targetName link.target := by
  cases link <;> rfl

theorem successors_eq (links : Links) :
    links.successors = links.declared.filterMap Link.target := by
  cases links with
  | activity next catches =>
    cases next <;>
      simp [Links.successors, Links.declared, OrderedMap.values, List.filterMap_cons,
        List.filterMap_map, Link.target, Function.comp_def]
  | choice branches =>
    simp [Links.successors, Links.declared, OrderedMap.values, List.filterMap_map, Link.target,
      Function.comp_def]

theorem linksTo_iff {builder : Builder φ} (held : network.builder? position = some builder)
    (next : Nat) :
    network.LinksTo position next ↔ ∃ link ∈ builder.links.declared, link.target = some next := by
  rw [LinksTo, mem_successors_iff held, successors_eq, List.mem_filterMap]

theorem lt_of_mem_reach (reached : position ∈ network.reach root) : position < network.size :=
  List.mem_range.mp (Walk.mem_world_of_order reached)

theorem held_of_lt {positions : List Nat} (inside : ∀ position ∈ positions, position < network.size) :
    List.Forall₂ (fun position builder => network.builder? position = some builder) positions
      (positions.filterMap network.builder?) := by
  induction positions with
  | nil => exact .nil
  | cons position rest ih =>
    obtain ⟨builder, held⟩ := builder?_of_lt (inside position List.mem_cons_self)
    rw [List.filterMap_cons_some held]
    exact .cons held (ih fun other member => inside other (List.mem_cons_of_mem position member))

theorem defined_eq (network : Network φ) (positions : List Nat) :
    network.defined positions = (positions.filterMap network.builder?).map network.definition := by
  rw [defined, List.map_filterMap]

theorem uniquelyNamed_of_nodup (apart : (network.builders.map (·.name)).Nodup) :
    network.UniquelyNamed root := by
  intro position other builder namesake _ _ held found same
  have first : (network.builders.map (·.name))[position]? = some builder.name := by
    rw [List.getElem?_map, ← builder?, held, Option.map_some]
  have second : (network.builders.map (·.name))[other]? = some builder.name := by
    rw [List.getElem?_map, ← builder?, found, Option.map_some, same]
  have bound := (List.getElem?_eq_some_iff.mp first).1
  exact (List.getElem?_inj bound apart).mp (first.trans second.symm)

theorem names_nodup {positions : List Nat} (once : positions.Nodup)
    (apart : ∀ position ∈ positions, ∀ other ∈ positions, ∀ builder namesake,
      network.builder? position = some builder → network.builder? other = some namesake →
      builder.name = namesake.name → position = other) :
    ((network.defined positions).map (·.name)).Nodup := by
  induction positions with
  | nil => exact List.nodup_nil
  | cons position rest ih =>
    obtain ⟨fresh, later⟩ := List.nodup_cons.mp once
    have deeper := ih later fun first one second two =>
      apart first (List.mem_cons_of_mem position one) second (List.mem_cons_of_mem position two)
    cases held : network.builder? position with
    | none => simpa [defined, held] using deeper
    | some builder =>
      have grown : network.defined (position :: rest) =
          network.definition builder :: network.defined rest := by
        simp [defined, held]
      rw [grown, List.map_cons, List.nodup_cons]
      refine ⟨fun member => ?_, deeper⟩
      obtain ⟨other, inside, namesake, found, name⟩ := mem_names_defined.mp member
      have same := apart position List.mem_cons_self other (List.mem_cons_of_mem position inside)
        builder namesake held found name.symm
      exact fresh (same ▸ inside)

/-- Each choice without branches is reported once. -/
theorem branchProblems_of_tasks {graph : TaskGraph φ} {builders : List (Builder φ)}
    (tasks : graph.tasks = builders.map network.definition) :
    graph.branchProblems =
      (builders.filter (·.isBranchless)).map fun builder => .noBranches builder.name := by
  rw [TaskGraph.branchProblems, tasks, List.filterMap_map]
  clear tasks
  induction builders with
  | nil => rfl
  | cons builder rest ih =>
    rw [List.filterMap_cons, ih, List.filter_cons]
    cases links : builder.links with
    | activity next catches =>
      simp [definition, routing, Builder.isBranchless, links]
    | choice branches =>
      have same : (branches.mapValues network.targetName).isEmpty = branches.isEmpty :=
        List.isEmpty_map
      cases empty : branches.isEmpty <;>
        simp [definition, routing, Builder.isBranchless, links, same, empty]

section UniquelyNamed

variable (inside : root < network.size) (unique : network.UniquelyNamed root)
include inside unique

theorem tasks_of_unique : (network.graph root).tasks = network.defined (network.reach root) := by
  apply TaskGraph.firstOfEachName_of_distinct
  apply names_nodup (Walk.order_nodup root)
  intro position reached other also builder namesake
  exact unique position other builder namesake ((mem_reach_iff inside position).mp reached)
    ((mem_reach_iff inside other).mp also)

theorem get?_of_reached {builder : Builder φ} (reached : position ∈ network.reach root)
    (held : network.builder? position = some builder) :
    (network.graph root).get? builder.name = some (network.definition builder) := by
  have member : network.definition builder ∈ (network.graph root).tasks := by
    rw [tasks_of_unique inside unique]
    exact List.mem_filterMap.mpr ⟨position, reached, by rw [held]; rfl⟩
  exact TaskGraph.get?_of_mem member

theorem mirrored_of_unique :
    network.Mirrored root (network.reach root) ((network.reach root).filterMap network.builder?) where
  once := Walk.order_nodup root
  reached := mem_reach_iff inside
  held := held_of_lt fun _ reached => lt_of_mem_reach reached
  tasks := by rw [tasks_of_unique inside unique, defined_eq]
  edges := by
    rw [TaskGraph.edges, tasks_of_unique inside unique, defined_eq, List.flatMap_map]
    exact List.flatMap_congr fun builder _ => network.edges_definition builder
  ends := by
    intro builder _ link _ ends
    rw [edge_target, ends]
    rfl
  leads := by
    intro builder member link declared next onward
    obtain ⟨position, reached, held⟩ := List.mem_filterMap.mp member
    have follows := (linksTo_iff held next).mpr ⟨link, declared, onward⟩
    have reached_too := mem_reach_of_linked reached follows
    obtain ⟨linked, found⟩ := builder?_of_lt (lt_of_mem_reach reached_too)
    refine ⟨reached_too, linked, found, ?_, get?_of_reached inside unique reached_too found⟩
    rw [edge_target, onward, targetName, Option.bind_some, found]
    rfl

theorem leads_of_linksTo {next : Nat} {builder linked : Builder φ}
    (reached : position ∈ network.reach root) (held : network.builder? position = some builder)
    (follows : network.LinksTo position next) (found : network.builder? next = some linked) :
    (network.graph root).Leads builder.name linked.name := by
  have mirrored := mirrored_of_unique inside unique
  have member : builder ∈ (network.reach root).filterMap network.builder? :=
    List.mem_filterMap.mpr ⟨position, reached, held⟩
  obtain ⟨link, declared, onward⟩ := (linksTo_iff held next).mp follows
  obtain ⟨_, other, also, target, _⟩ := mirrored.leads builder member link declared next onward
  obtain rfl := Option.some.inj (found.symm.trans also)
  refine ⟨network.edge builder link, ?_, edge_source builder link, target⟩
  rw [mirrored.edges]
  exact List.mem_flatMap.mpr ⟨builder, member, List.mem_map.mpr ⟨link, declared, rfl⟩⟩

theorem path_of_reaches {start builder : Builder φ} (first : network.builder? root = some start)
    (reached : network.Reaches root position) (held : network.builder? position = some builder) :
    Relation.ReflTransGen (network.graph root).Leads start.name builder.name := by
  induction reached generalizing builder with
  | refl =>
    obtain rfl := Option.some.inj (first.symm.trans held)
    exact .refl
  | @tail middle position path follows ih =>
    have reached := (mem_reach_iff inside middle).mpr path
    obtain ⟨between, here⟩ := builder?_of_lt (lt_of_mem_reach reached)
    exact (ih here).tail (leads_of_linksTo inside unique reached here follows held)

variable (sole : network.StartsOnlyAt root)
include sole

theorem eq_start_of_flagged {start : Builder φ} (first : network.builder? root = some start)
    {task : Task φ} (member : task ∈ (network.graph root).tasks) (flagged : task.start = true) :
    task = network.definition start := by
  obtain ⟨position, builder, reached, held, rfl⟩ := reached_of_mem_graph member
  obtain rfl := sole position builder ((mem_reach_iff inside position).mp reached) held flagged
  obtain rfl := Option.some.inj (first.symm.trans held)
  rfl

theorem startTask?_of_sole :
    (network.graph root).startTask? = (network.builder? root).map network.definition := by
  obtain ⟨start, first⟩ := builder?_of_lt inside
  have head := head?_graph inside
  rw [first] at head ⊢
  rw [TaskGraph.startTask?, head]
  cases found : (network.graph root).tasks.find? (·.start) with
  | none => rfl
  | some task =>
    have member := List.mem_of_find?_eq_some found
    have flagged : task.start = true := List.find?_some found
    rw [eq_start_of_flagged inside unique sole first member flagged]
    rfl

theorem complaints_of_sole :
    (network.graph root).complaints =
      (((network.reach root).filterMap network.builder?).filter (·.isBranchless)).map fun builder =>
        "Choice '" ++ builder.name ++ "' declares no choices" := by
  obtain ⟨start, first⟩ := builder?_of_lt inside
  have starts := startTask?_of_sole inside unique sole
  rw [first] at starts
  have flags : (network.graph root).startProblems = [] := by
    rw [TaskGraph.startProblems_eq_nil_iff]
    intro task member other also flagged too
    rw [eq_start_of_flagged inside unique sole first member flagged,
      eq_start_of_flagged inside unique sole first also too]
  have targets : (network.graph root).targetProblems = [] :=
    TaskGraph.targetProblems_eq_nil_iff.mpr (closed_graph inside).leads
  have strays : (network.graph root).reachProblems = [] := by
    rw [TaskGraph.reachProblems_eq_nil_iff]
    intro task member
    obtain ⟨position, builder, reached, held, rfl⟩ := reached_of_mem_graph member
    exact ⟨_, starts,
      path_of_reaches inside unique first ((mem_reach_iff inside position).mp reached) held⟩
  rw [TaskGraph.complaints, TaskGraph.problems, starts]
  simp only [Option.map_some, flags, targets, strays, List.nil_append, List.append_nil,
    branchProblems_of_tasks (mirrored_of_unique inside unique).tasks, List.map_map]
  rfl

end UniquelyNamed

end Network

/-- If the builders that are reached from one of them have names of their own, then the graph is
their network: one task for each, and one edge for each link. If none of them is flagged as the
start but the root, runs start from its task, and choices without branches are all that the lint
finds, each once. -/
theorem unique_names_mirror_the_network (network : Network φ) (root : Nat)
    (inside : root < network.size) (unique : network.UniquelyNamed root) :
    ∃ builders, network.Mirrored root (network.reach root) builders ∧
      (network.StartsOnlyAt root →
        (network.graph root).startTask? = (network.builder? root).map network.definition ∧
        (network.graph root).complaints =
          (builders.filter (·.isBranchless)).map fun builder =>
            "Choice '" ++ builder.name ++ "' declares no choices") :=
  ⟨_, Network.mirrored_of_unique inside unique, fun sole =>
    ⟨Network.startTask?_of_sole inside unique sole, Network.complaints_of_sole inside unique sole⟩⟩

def Retry.unfinished : Network Step where
  builders :=
    [⟨"fetch", fetch.step, true, .activity (some 2) (.ofList [("*Timeout*", some 1)])⟩,
      ⟨"recover", recover.step, false, .activity (some 0) .empty⟩,
      ⟨"check", check.step, false, .choice .empty⟩]
  closed := by decide

theorem Retry.unfinished_startsOnlyAt : Retry.unfinished.StartsOnlyAt 0 := by
  intro position builder _ held flagged
  match position, held with
  | 0, _ => rfl
  | 1, held | 2, held =>
    cases held
    cases flagged
  | _ + 3, held => cases held

theorem Retry.unfinished_reach : Retry.unfinished.reach 0 = [0, 2, 1] := by
  have fetching : Retry.unfinished.successors 0 = [2, 1] := rfl
  have recovering : Retry.unfinished.successors 1 = [0] := rfl
  have checking : Retry.unfinished.successors 2 = [] := rfl
  have world : List.range Retry.unfinished.size = [0, 1, 2] := rfl
  simp [Network.reach, Walk.order, Walk.explore, world, fetching, recovering, checking]

theorem retry_mirrors_its_network :
    0 < Retry.unfinished.size ∧ Retry.unfinished.UniquelyNamed 0 ∧
      Retry.unfinished.StartsOnlyAt 0 ∧
      (∃ builders, Retry.unfinished.Mirrored 0 [0, 2, 1] builders) ∧
      (Retry.unfinished.graph 0).startTask? =
        (Retry.unfinished.builder? 0).map Retry.unfinished.definition ∧
      (Retry.unfinished.graph 0).complaints = ["Choice 'check' declares no choices"] := by
  have inside : 0 < Retry.unfinished.size := by decide
  have unique : Retry.unfinished.UniquelyNamed 0 :=
    Network.uniquelyNamed_of_nodup (by decide)
  have sole := Retry.unfinished_startsOnlyAt
  obtain ⟨builders, mirrored, starts⟩ :=
    unique_names_mirror_the_network Retry.unfinished 0 inside unique
  obtain ⟨start, complaints⟩ := starts sole
  rw [Retry.unfinished_reach] at mirrored
  refine ⟨inside, unique, sole, ⟨builders, mirrored⟩, start, complaints.trans ?_⟩
  rcases mirrored.held with _ | ⟨fetching, _ | ⟨checking, _ | ⟨recovering, _ | _⟩⟩⟩
  cases fetching
  cases checking
  cases recovering
  rfl

end Flowtrace
