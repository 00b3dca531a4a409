/-! The walk that flattens networks of builders and finds the tasks that a run can reach. It keeps
a stack of places still to visit, enters each place at most once, and passes over what does not
exist, so it ends on every graph, with cycles or with links that lead nowhere. -/

namespace Flowtrace.Walk

variable {α : Type} [DecidableEq α]

/-- The places of a finite world that a walk has not entered. -/
def unvisited (world visited : List α) : List α :=
  world.filter fun place => decide (place ∉ visited)

theorem unvisited_shrinks {world visited : List α} {place : α} (inside : place ∈ world)
    (fresh : place ∉ visited) :
    (unvisited world (visited ++ [place])).length < (unvisited world visited).length := by
  have smaller : unvisited world (visited ++ [place]) =
      (unvisited world visited).filter fun other => decide (other ≠ place) := by
    simp only [unvisited, List.filter_filter]
    congr 1
    funext other
    simp [Bool.and_comm, not_or]
  rw [smaller]
  exact List.length_filter_lt_length_iff_exists.2
    ⟨place, by simp [unvisited, inside, fresh], by simp⟩

/-- The places entered, in order. The successors of a place come before the rest of the stack,
so its first successor's whole region is walked before its second successor. -/
def explore (world : List α) (successors : α → List α) (visited : List α) : List α → List α
  | [] => visited
  | place :: stack =>
    if place ∈ visited ∨ place ∉ world then explore world successors visited stack
    else explore world successors (visited ++ [place]) (successors place ++ stack)
termination_by stack => ((unvisited world visited).length, stack.length)
decreasing_by
  · simp [Prod.lex_def]
  · rename_i unknown
    simp only [not_or, Decidable.not_not] at unknown
    exact Prod.Lex.left _ _ (unvisited_shrinks unknown.2 unknown.1)

def order (world : List α) (successors : α → List α) (root : α) : List α :=
  explore world successors [] [root]

end Flowtrace.Walk
