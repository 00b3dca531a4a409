import Flowtrace.Network
import Flowtrace.Proofs.LintSoundness

/-! Flattening a network of builders. The walk goes from builder to builder by position, and the
graph that it leaves goes from task to task by name. Of several builders with one name only the
first is kept, yet every name that a kept definition points to is the name of a builder that the
walk has entered, so that some definition of that name is kept. -/

namespace Flowtrace

variable {φ : Type}

namespace Walk

variable {α : Type} [DecidableEq α] {world : List α} {successors : α → List α}

/-- The loop of a walk within a budget of turns, each of which takes one place off the stack. It
knows nothing of a world that bounds it, and gives no result if the budget runs out. -/
def loop (successors : α → List α) : Nat → List α → List α → Option (List α)
  | _, visited, [] => some visited
  | 0, _, _ :: _ => none
  | turns + 1, visited, place :: stack =>
    if place ∈ visited then loop successors turns visited stack
    else loop successors turns (visited ++ [place]) (successors place ++ stack)

/-- In a world that no link leaves there is nothing for the walk to pass over. -/
theorem loop_eq_search (closed : ∀ place ∈ world, ∀ next ∈ successors place, next ∈ world)
    (turns : Nat) (visited stack : List α) (inside : ∀ place ∈ stack, place ∈ world) :
    loop successors turns visited stack = search world successors turns visited stack := by
  induction turns generalizing visited stack with
  | zero => cases stack <;> rfl
  | succ turns ih =>
    cases stack with
    | nil => rfl
    | cons place stack =>
      have here := inside place List.mem_cons_self
      have deeper : ∀ other ∈ stack, other ∈ world := fun other member =>
        inside other (List.mem_cons_of_mem place member)
      by_cases known : place ∈ visited
      · rw [loop, search, if_pos known, if_pos (.inl known)]
        exact ih visited stack deeper
      · rw [loop, search, if_neg known, if_neg (by simp [known, here])]
        apply ih
        intro other member
        rcases List.mem_append.mp member with follows | waiting
        · exact closed place here other follows
        · exact deeper other waiting

theorem loop_order (closed : ∀ place ∈ world, ∀ next ∈ successors place, next ∈ world)
    {root : α} (inside : root ∈ world) {turns : Nat}
    (enough : 1 + ((order world successors root).flatMap successors).length ≤ turns) :
    loop successors turns [] [root] = some (order world successors root) := by
  rw [loop_eq_search closed turns [] [root] (by simpa using inside)]
  exact search_order enough

end Walk

namespace OrderedMap

/-- A mapping without entries is left out, which leaves out no entry. -/
theorem entries_unless_empty {κ α β : Type} (map : OrderedMap κ α) (f : α → β) :
    ((if map.isEmpty then none else some (map.mapValues f)).map (·.entries)).getD [] =
      map.entries.map fun entry => (entry.1, f entry.2) := by
  cases empty : map.isEmpty with
  | true =>
    have nothing : map.entries = [] := List.isEmpty_iff.mp empty
    simp [nothing]
  | false => rfl

end OrderedMap

namespace Network

variable {network : Network φ} {root position : Nat}

theorem builder?_of_lt (inside : position < network.size) :
    ∃ builder, network.builder? position = some builder :=
  ⟨_, List.getElem?_eq_getElem inside⟩

theorem mem_successors_iff {builder : Builder φ} (held : network.builder? position = some builder)
    (next : Nat) : next ∈ network.successors position ↔ next ∈ builder.links.successors := by
  simp [successors, held]

theorem lt_of_mem_successors {next : Nat} (linked : next ∈ network.successors position) :
    next < network.size := by
  cases held : network.builder? position with
  | none => simp [successors, held] at linked
  | some builder =>
    rw [mem_successors_iff held] at linked
    exact network.closed builder (List.mem_of_getElem? held) next linked

theorem closed_range (network : Network φ) : ∀ position ∈ List.range network.size,
    ∀ next ∈ network.successors position, next ∈ List.range network.size :=
  fun _ _ _ linked => List.mem_range.mpr (lt_of_mem_successors linked)

theorem root_mem_reach (inside : root < network.size) : root ∈ network.reach root :=
  Walk.root_mem_order (List.mem_range.mpr inside)

theorem mem_reach_of_linked {next : Nat} (reached : position ∈ network.reach root)
    (linked : next ∈ network.successors position) : next ∈ network.reach root :=
  Walk.order_closed reached linked (List.mem_range.mpr (lt_of_mem_successors linked))

/-- Flattening ends: it takes as many turns as the builders that it reaches have links, and one
more for the root. -/
theorem loop_reach (inside : root < network.size) {turns : Nat}
    (enough : 1 + ((network.reach root).flatMap network.successors).length ≤ turns) :
    Walk.loop network.successors turns [] [root] = some (network.reach root) :=
  Walk.loop_order network.closed_range (List.mem_range.mpr inside) enough

theorem targetName_eq_some {link : Option Nat} {target : String}
    (named : network.targetName link = some target) :
    ∃ next builder, link = some next ∧ network.builder? next = some builder ∧
      builder.name = target := by
  obtain ⟨next, rfl, found⟩ := Option.bind_eq_some_iff.mp named
  obtain ⟨builder, held, name⟩ := Option.map_eq_some_iff.mp found
  exact ⟨next, builder, rfl, held, name⟩

theorem linked_of_edge {builder : Builder φ} {edge : Edge} {target : String}
    (member : edge ∈ (network.definition builder).edges) (onward : edge.target = some target) :
    ∃ next ∈ builder.links.successors, ∃ linked,
      network.builder? next = some linked ∧ linked.name = target := by
  have of_entry : ∀ {map : OrderedMap String (Option Nat)} {key : String} {link : Option Nat},
      (key, link) ∈ map.entries → network.targetName link = some target →
      ∃ next ∈ map.values.filterMap id, ∃ linked,
        network.builder? next = some linked ∧ linked.name = target := by
    intro map key link declared named
    obtain ⟨next, linked, rfl, held, name⟩ := targetName_eq_some named
    have value : some next ∈ map.values := List.mem_map.mpr ⟨_, declared, rfl⟩
    exact ⟨next, List.mem_filterMap.mpr ⟨some next, value, rfl⟩, linked, held, name⟩
  cases links : builder.links with
  | activity next catches =>
    simp only [definition, routing, links, Task.edges, OrderedMap.entries_unless_empty,
      List.map_map, List.mem_cons, List.mem_map] at member
    rcases member with rfl | ⟨⟨pattern, link⟩, declared, rfl⟩
    · obtain ⟨first, linked, rfl, held, name⟩ := targetName_eq_some onward
      exact ⟨first, by simp [Links.successors], linked, held, name⟩
    · obtain ⟨caught, follows, named⟩ := of_entry declared onward
      exact ⟨caught, List.mem_append_right _ follows, named⟩
  | choice branches =>
    simp only [definition, routing, links, Task.edges, OrderedMap.mapValues, List.map_map,
      List.mem_map] at member
    obtain ⟨⟨key, link⟩, declared, rfl⟩ := member
    exact of_entry declared onward

theorem contains_of_reach {builder : Builder φ} (reached : position ∈ network.reach root)
    (held : network.builder? position = some builder) :
    (network.graph root).contains builder.name = true := by
  rw [TaskGraph.contains, graph, TaskGraph.get?_ofList, List.find?_isSome]
  refine ⟨network.definition builder, List.mem_filterMap.mpr ⟨position, reached, ?_⟩, ?_⟩
  · rw [held]
    rfl
  · exact beq_self_eq_true builder.name

theorem reached_of_mem_graph {task : Task φ} (member : task ∈ (network.graph root).tasks) :
    ∃ position builder, position ∈ network.reach root ∧
      network.builder? position = some builder ∧ task = network.definition builder := by
  obtain ⟨position, reached, defined⟩ :=
    List.mem_filterMap.mp (TaskGraph.mem_of_mem_ofList member)
  obtain ⟨builder, held, same⟩ := Option.map_eq_some_iff.mp defined
  exact ⟨position, builder, reached, held, same.symm⟩

theorem closed_graph (inside : root < network.size) : (network.graph root).Closed where
  inhabited := by
    intro empty
    obtain ⟨builder, held⟩ := builder?_of_lt inside
    have kept := contains_of_reach (root_mem_reach inside) held
    simp [TaskGraph.contains, TaskGraph.get?, empty] at kept
  leads := by
    intro task member edge declared target onward
    obtain ⟨position, builder, reached, held, rfl⟩ := reached_of_mem_graph member
    obtain ⟨next, follows, linked, found, rfl⟩ := linked_of_edge declared onward
    have linked_to := (mem_successors_iff held next).mpr follows
    exact contains_of_reach (mem_reach_of_linked reached linked_to) found

end Network

/-- Flattening a network from any of its builders ends, in a graph whose pointers lead to its own
tasks or to the end. So no run of that graph lacks a task, to start from or to go on to, unless its
bus raised such a fault itself. -/
theorem builder_graphs_never_dangle (network : Network φ) (root : Nat)
    (inside : root < network.size) :
    (∀ turns, 1 + ((network.reach root).flatMap network.successors).length ≤ turns →
      Walk.loop network.successors turns [] [root] = some (network.reach root)) ∧
    (network.graph root).tasks ≠ [] ∧
    (∀ task ∈ (network.graph root).tasks, ∀ edge ∈ task.edges,
      edge.target = none ∨
        ∃ target, edge.target = some target ∧ (network.graph root).contains target = true) ∧
    ∀ (engine : Engine φ) (input : Value) (context : Context) (turns : Nat) (failure : Raised φ),
      (engine.run turns (network.graph root) input context).ending? = some (.raised failure) →
      (engine.Unhindered → failure.Resolved) ∧
        (failure.Resolved ∨ engine.Interrupts failure) := by
  have closed := Network.closed_graph inside
  refine ⟨fun turns enough => Network.loop_reach inside enough, closed.inhabited, ?_, ?_⟩
  · intro task member edge declared
    cases onward : edge.target with
    | none => exact .inl rfl
    | some target => exact .inr ⟨target, rfl, closed.leads task member edge declared _ onward⟩
  · intro engine input context turns failure ended
    have settles : failure.Resolved ∨ engine.Interrupts failure := by
      rcases Engine.concludes_or_interrupts ended with concludes | ⟨error, same, interrupts⟩
      · exact .inl (concludes.resolved_of_closed closed)
      · cases same
        exact .inr interrupts
    exact ⟨fun unhindered => settles.resolve_right (unhindered.not_interrupts failure), settles⟩

def Retry.network : Network Step where
  builders :=
    [⟨"fetch", fetch.step, true, .activity (some 2) (.ofList [("*Timeout*", some 1)])⟩,
      ⟨"recover", recover.step, false, .activity (some 0) .empty⟩,
      ⟨"check", check.step, false, .choice (.ofList [("found", none), ("lost", some 3)])⟩,
      ⟨"fetch", recover.step, false, .activity (some 3) .empty⟩]
  closed := by decide

theorem Retry.network_reach : Retry.network.reach 0 = [0, 2, 3, 1] := by
  have fetching : Retry.network.successors 0 = [2, 1] := rfl
  have recovering : Retry.network.successors 1 = [0] := rfl
  have checking : Retry.network.successors 2 = [3] := rfl
  have again : Retry.network.successors 3 = [3] := rfl
  have world : List.range Retry.network.size = [0, 1, 2, 3] := rfl
  simp [Network.reach, Walk.order, Walk.explore, world, fetching, recovering, checking, again]

theorem Retry.network_graph : Retry.network.graph 0 =
    .ofList ([0, 2, 3, 1].filterMap fun position =>
      (Retry.network.builder? position).map Retry.network.definition) := by
  rw [← Retry.network_reach]
  rfl

theorem retry_builders_never_dangle :
    0 < Retry.network.size ∧
      Walk.loop Retry.network.successors 6 [] [0] = some [0, 2, 3, 1] ∧
      (Retry.network.graph 0).tasks ≠ [] ∧
      ∃ failure,
        (Retry.engine.run 14 (Retry.network.graph 0) .null (Retry.reply "gone")).ending? =
          some (.raised failure) ∧
        failure.fault = .unmappedChoice "check" "gone" ∧ failure.Resolved := by
  have inside : 0 < Retry.network.size := by decide
  obtain ⟨ends, inhabited, _, sound⟩ := builder_graphs_never_dangle Retry.network 0 inside
  have loops := ends 6 (by rw [Retry.network_reach]; decide)
  rw [Retry.network_reach] at loops
  have resolved := fun failure ended =>
    (sound Retry.engine .null (Retry.reply "gone") 14 failure ended).1 Retry.unhindered
  rw [Retry.network_graph] at inhabited resolved ⊢
  exact ⟨inside, loops, inhabited, _, rfl, rfl, resolved _ rfl⟩

end Flowtrace
