import Mathlib.Data.List.Basic
import Mathlib.Data.List.Induction
import Flowtrace.Proofs.Flattening

/-! The order of flattening. The walk keeps a stack, from which it takes a builder to enter it; a
recursion enters a builder when it is called for it, and then calls itself for each successor. Both
pass over what has been entered before, and both enter the same builders in the same order. Of the
definitions in that order, the graph keeps the first of each name. -/

namespace Flowtrace

variable {φ : Type}

namespace Walk

variable {α : Type} [DecidableEq α] {world : List α} {successors : α → List α}

/-- The recursive depth-first order, with a bound on the depth of its calls. A place that has been
entered is passed over; any other is entered, and then its successors are visited in their order.
There is no result if a call would go too deep. -/
def recurse (successors : α → List α) : Nat → List α → α → Option (List α)
  | 0, _, _ => none
  | depth + 1, visited, place =>
    if place ∈ visited then some visited
    else (successors place).foldlM (recurse successors depth) (visited ++ [place])

/-- What lies on top of the stack is walked to its end before what lies below. -/
theorem explore_append (visited top bottom : List α) :
    explore world successors visited (top ++ bottom) =
      explore world successors (explore world successors visited top) bottom := by
  fun_induction explore world successors visited top with
  | case1 visited => rfl
  | case2 visited place stack known ih =>
    rw [List.cons_append, explore, if_pos known]
    exact ih
  | case3 visited place stack unknown ih =>
    rw [List.cons_append, explore, if_neg unknown, ← List.append_assoc]
    exact ih

theorem unvisited_length_le {visited later : List α} (grown : visited ⊆ later) :
    (unvisited world later).length ≤ (unvisited world visited).length := by
  refine List.Sublist.length_le (List.monotone_filter_right world fun place fresh => ?_)
  have missing := of_decide_eq_true fresh
  exact decide_eq_true fun member => missing (grown member)

/-- The depth that the recursion needs is the number of places that it can still enter. -/
theorem recurse_eq_explore (closed : ∀ place ∈ world, ∀ next ∈ successors place, next ∈ world)
    (depth : Nat) (visited : List α) {place : α} (inside : place ∈ world)
    (deep : (unvisited world visited).length < depth) :
    recurse successors depth visited place = some (explore world successors visited [place]) := by
  induction depth generalizing visited place with
  | zero => exact absurd deep (Nat.not_lt_zero _)
  | succ depth ih =>
    have each : ∀ (places visited : List α), (∀ place ∈ places, place ∈ world) →
        (unvisited world visited).length < depth →
        places.foldlM (recurse successors depth) visited =
          some (explore world successors visited places) := by
      intro places
      induction places with
      | nil =>
        intro visited _ _
        rw [explore]
        rfl
      | cons place rest later =>
        intro visited within deep
        have grown : visited ⊆ explore world successors visited [place] :=
          visited_subset_explore visited [place]
        rw [List.foldlM_cons, ih visited (within place List.mem_cons_self) deep]
        refine (later _ (fun other member => within other (List.mem_cons_of_mem place member))
          (Nat.lt_of_le_of_lt (unvisited_length_le grown) deep)).trans ?_
        rw [← explore_append, List.singleton_append]
    by_cases known : place ∈ visited
    · rw [recurse, if_pos known, explore, if_pos (.inl known), explore]
    · have shrinks := unvisited_shrinks inside known
      rw [recurse, if_neg known, explore, if_neg (by simp [known, inside]), List.append_nil]
      exact each _ _ (closed place inside) (by omega)

theorem order_eq_cons {root : α} (inside : root ∈ world) :
    ∃ rest, order world successors root = root :: rest := by
  obtain ⟨rest, same, _⟩ := @search_explore α _ world successors [root] (successors root ++ [])
  refine ⟨rest, ?_⟩
  rw [order, explore, if_neg (by simp [inside])]
  exact same

theorem foldlM_of_agree {β γ : Type} {small large : β → γ → Option β}
    (agree : ∀ state item after, small state item = some after → large state item = some after)
    (items : List γ) (state after : β) (folded : items.foldlM small state = some after) :
    items.foldlM large state = some after := by
  induction items generalizing state with
  | nil => exact folded
  | cons item rest ih =>
    rw [List.foldlM_cons] at folded ⊢
    obtain ⟨middle, first, later⟩ := Option.bind_eq_some_iff.mp folded
    exact Option.bind_eq_some_iff.mpr ⟨middle, agree _ _ _ first, ih middle later⟩

/-- A result does not depend on how deep the calls might have gone. -/
theorem recurse_succ {depth : Nat} {visited after : List α} {place : α}
    (visits : recurse successors depth visited place = some after) :
    recurse successors (depth + 1) visited place = some after := by
  induction depth generalizing visited place after with
  | zero => cases visits
  | succ depth ih =>
    rw [recurse] at visits ⊢
    split at visits
    case isTrue known => rwa [if_pos known]
    case isFalse unknown =>
      rw [if_neg unknown]
      exact foldlM_of_agree (fun _ _ _ shallow => ih shallow) _ _ _ visits

theorem recurse_add {depth : Nat} (further : Nat) {visited after : List α} {place : α}
    (visits : recurse successors depth visited place = some after) :
    recurse successors (depth + further) visited place = some after := by
  induction further with
  | zero => exact visits
  | succ further ih => exact recurse_succ ih

theorem recurse_order (closed : ∀ place ∈ world, ∀ next ∈ successors place, next ∈ world)
    {root : α} (inside : root ∈ world) {depth : Nat} (deep : world.length < depth) :
    recurse successors depth [] root = some (order world successors root) :=
  recurse_eq_explore closed depth [] inside
    (Nat.lt_of_le_of_lt (List.length_filter_le _ world) deep)

theorem eq_order_of_recurse (closed : ∀ place ∈ world, ∀ next ∈ successors place, next ∈ world)
    {root : α} (inside : root ∈ world) {depth : Nat} {entered : List α}
    (visits : recurse successors depth [] root = some entered) :
    entered = order world successors root := by
  have deep : world.length < depth + (world.length + 1) := by omega
  have same := (recurse_add (world.length + 1) visits).symm.trans (recurse_order closed inside deep)
  exact Option.some.inj same

end Walk

theorem TaskGraph.firstOfEachName_concat (definitions : List (Task φ)) (task : Task φ) :
    firstOfEachName (definitions ++ [task]) =
      if task.name ∈ definitions.map (·.name) then firstOfEachName definitions
      else firstOfEachName definitions ++ [task] := by
  rw [firstOfEachName_append]
  by_cases known : task.name ∈ definitions.map (·.name)
  · rw [if_pos known]
    simpa [firstOfEachName] using known
  · rw [if_neg known]
    simpa [firstOfEachName] using known

namespace Network

variable {network : Network φ} {root position : Nat}

def LinksTo (network : Network φ) (position next : Nat) : Prop :=
  next ∈ network.successors position

def Reaches (network : Network φ) (root position : Nat) : Prop :=
  Relation.ReflTransGen network.LinksTo root position

def defined (network : Network φ) (positions : List Nat) : List (Task φ) :=
  positions.filterMap fun position => (network.builder? position).map network.definition

def FirstOfName (network : Network φ) (walked : List Nat) (position : Nat) : Prop :=
  ∃ before after builder, walked = before ++ position :: after ∧
    network.builder? position = some builder ∧
    ∀ earlier ∈ before, ∀ other, network.builder? earlier = some other →
      other.name ≠ builder.name

theorem mem_reach_iff (inside : root < network.size) (position : Nat) :
    position ∈ network.reach root ↔ network.Reaches root position := by
  have joins : Walk.Joins (List.range network.size) network.successors = network.LinksTo := by
    funext position next
    refine propext ⟨And.left, fun linked => ⟨linked, ?_⟩⟩
    exact List.mem_range.mpr (lt_of_mem_successors linked)
  rw [Reaches, ← joins]
  exact Walk.mem_order_iff (List.mem_range.mpr inside) position

theorem mem_names_defined {walked : List Nat} {name : String} :
    name ∈ (network.defined walked).map (·.name) ↔
      ∃ position ∈ walked, ∃ builder, network.builder? position = some builder ∧
        builder.name = name := by
  constructor
  · intro member
    obtain ⟨task, found, rfl⟩ := List.mem_map.mp member
    obtain ⟨position, inside, defined⟩ := List.mem_filterMap.mp found
    obtain ⟨builder, held, rfl⟩ := Option.map_eq_some_iff.mp defined
    exact ⟨position, inside, builder, held, rfl⟩
  · rintro ⟨position, inside, builder, held, rfl⟩
    refine List.mem_map.mpr ⟨network.definition builder, ?_, rfl⟩
    exact List.mem_filterMap.mpr ⟨position, inside, by rw [held]; rfl⟩

theorem firstOfName_concat_iff {walked : List Nat} {last : Nat} {newest : Builder φ}
    (newly : network.builder? last = some newest) :
    network.FirstOfName (walked ++ [last]) position ↔
      network.FirstOfName walked position ∨
        position = last ∧ newest.name ∉ (network.defined walked).map (·.name) := by
  simp only [mem_names_defined]
  constructor
  · rintro ⟨before, after, builder, split, held, fresh⟩
    rcases List.eq_nil_or_concat after with rfl | ⟨rest, other, rfl⟩
    · obtain ⟨rfl, same⟩ := List.append_inj' split rfl
      obtain rfl := (List.cons.inj same).1
      obtain rfl := Option.some.inj (newly.symm.trans held)
      refine .inr ⟨rfl, ?_⟩
      rintro ⟨earlier, inside, other, found, name⟩
      exact fresh earlier inside other found name
    · rw [List.concat_eq_append, ← List.cons_append, ← List.append_assoc] at split
      obtain ⟨rfl, _⟩ := List.append_inj' split rfl
      exact .inl ⟨before, rest, builder, rfl, held, fresh⟩
  · rintro (⟨before, after, builder, rfl, held, fresh⟩ | ⟨rfl, fresh⟩)
    · exact ⟨before, after ++ [last], builder, by simp, held, fresh⟩
    · refine ⟨walked, [], newest, rfl, newly, ?_⟩
      exact fun earlier inside other found name => fresh ⟨earlier, inside, other, found, name⟩

theorem firstOfEachName_defined {walked : List Nat}
    (inside : ∀ position ∈ walked, position < network.size) :
    ∃ kept, kept.Sublist walked ∧
      (∀ position, position ∈ kept ↔ network.FirstOfName walked position) ∧
      TaskGraph.firstOfEachName (network.defined walked) = network.defined kept := by
  induction walked using List.reverseRecOn with
  | nil =>
    refine ⟨[], .slnil, fun position => ?_, rfl⟩
    simp [FirstOfName]
  | append_singleton walked last ih =>
    obtain ⟨kept, part, first, same⟩ := ih fun position member =>
      inside position (List.mem_append_left [last] member)
    obtain ⟨newest, newly⟩ := builder?_of_lt (inside last (by simp))
    have grown : network.defined (walked ++ [last]) =
        network.defined walked ++ [network.definition newest] := by
      simp [defined, newly]
    rw [grown, TaskGraph.firstOfEachName_concat, same]
    by_cases known : newest.name ∈ (network.defined walked).map (·.name)
    · refine ⟨kept, part.trans (List.sublist_append_left _ _), fun position => ?_, if_pos known⟩
      rw [firstOfName_concat_iff newly, first]
      simp only [known, not_true, and_false, or_false]
    · refine ⟨kept ++ [last], part.append_right [last], fun position => ?_, ?_⟩
      · rw [firstOfName_concat_iff newly, List.mem_append, List.mem_singleton, first]
        simp only [known, not_false_eq_true, and_true]
      · refine (if_neg known).trans ?_
        simp [defined, newly]

theorem head?_graph (inside : root < network.size) :
    (network.graph root).tasks.head? = (network.builder? root).map network.definition := by
  obtain ⟨builder, held⟩ := builder?_of_lt inside
  obtain ⟨rest, walked⟩ := Walk.order_eq_cons (List.mem_range.mpr inside)
  have tasks : (network.graph root).tasks =
      TaskGraph.firstOfEachName (network.defined (network.reach root)) := rfl
  rw [tasks, reach, walked]
  simp [defined, held, TaskGraph.firstOfEachName]

end Network

/-- Flattening ends, after as many turns as there are links of builders to follow, and enters the
builders that a path of links leads to, each once, in the order of the depth-first recursion. The
graph keeps the definitions of the first builders of each name in that order, the root's first. -/
theorem flattening_is_preorder (network : Network φ) (root : Nat) (inside : root < network.size) :
    (∀ turns, 1 + ((network.reach root).flatMap network.successors).length ≤ turns →
      Walk.loop network.successors turns [] [root] = some (network.reach root)) ∧
    (∀ depth, network.size < depth →
      Walk.recurse network.successors depth [] root = some (network.reach root)) ∧
    (∀ depth entered, Walk.recurse network.successors depth [] root = some entered →
      entered = network.reach root) ∧
    (network.reach root).Nodup ∧
    (∀ position, position ∈ network.reach root ↔ network.Reaches root position) ∧
    (∃ kept, kept.Sublist (network.reach root) ∧
      (∀ position, position ∈ kept ↔ network.FirstOfName (network.reach root) position) ∧
      (network.graph root).tasks = network.defined kept) ∧
    (network.graph root).tasks.head? = (network.builder? root).map network.definition := by
  have here : root ∈ List.range network.size := List.mem_range.mpr inside
  refine ⟨fun turns enough => Network.loop_reach inside enough, fun depth deep => ?_,
    fun depth entered visits => Walk.eq_order_of_recurse network.closed_range here visits,
    Walk.order_nodup root, Network.mem_reach_iff inside,
    Network.firstOfEachName_defined fun position entered => ?_, Network.head?_graph inside⟩
  · exact Walk.recurse_order network.closed_range here (by rwa [List.length_range])
  · exact List.mem_range.mp (Walk.mem_world_of_order entered)

theorem retry_flattens_in_preorder :
    0 < Retry.network.size ∧
      Walk.loop Retry.network.successors 6 [] [0] = some [0, 2, 3, 1] ∧
      Walk.recurse Retry.network.successors 5 [] 0 = some [0, 2, 3, 1] ∧
      Retry.network.Reaches 0 3 ∧
      ∃ kept, kept.Sublist [0, 2, 3, 1] ∧
        (∀ position, position ∈ kept ↔ Retry.network.FirstOfName [0, 2, 3, 1] position) ∧
        (Retry.network.graph 0).tasks = Retry.network.defined kept := by
  have inside : 0 < Retry.network.size := by decide
  obtain ⟨ends, recurses, _, _, reaches, kept, _⟩ := flattening_is_preorder Retry.network 0 inside
  have loops := ends 6 (by rw [Retry.network_reach]; decide)
  have visits := recurses 5 (by decide)
  rw [Retry.network_reach] at loops visits kept reaches
  exact ⟨inside, loops, visits, (reaches 3).mp (by decide), kept⟩

end Flowtrace
