import Mathlib.Data.List.Nodup
import Flowtrace.Graph.Export
import Flowtrace.Proofs.FollowedEdges

/-! An exported graph read back. A node can be known by its label, which is the name of its task,
or by its identifier, in which the spaces of the name are replaced. The edges keep the names. So
they join up with the labels of the nodes, and with their identifiers only where no two of these
spellings get in each other's way. -/

namespace Flowtrace

variable {φ : Type}

open Diagram

def Edge.names (edge : Edge) : List String := edge.source :: edge.target.toList

namespace ExportedNode

def knownAs (key : ExportedNode → String) (nodes : List ExportedNode) (name : String) :
    List String :=
  (nodes.filter fun node => key node == name).map (·.label)

/-- What a pointer stands for. A name that no node is known by stands for itself. -/
def pointees (key : ExportedNode → String) (nodes : List ExportedNode) : Pointer → List Pointer
  | none => [none]
  | some name =>
    if knownAs key nodes name = [] then [some name] else (knownAs key nodes name).map some

/-- The edges that one exported edge is read as: from every node that is known by its source, to
everything that its target stands for. -/
def joined (key : ExportedNode → String) (nodes : List ExportedNode) (edge : Edge) : List Edge :=
  (knownAs key nodes edge.source).flatMap fun source =>
    (pointees key nodes edge.target).map fun target => ⟨source, edge.label, target, edge.kind⟩

end ExportedNode

open ExportedNode

theorem Diagram.nodeId_eq_self_iff (name : String) : nodeId name = name ↔ ' ' ∉ name.toList := by
  rw [nodeId, ← String.toList_inj, String.toList_ofList]
  nth_rewrite 2 [← List.map_id name.toList]
  rw [List.map_inj_left]
  constructor
  · intro kept space
    exact absurd (kept ' ' space) (by decide)
  · intro plain c member
    have other : c ≠ ' ' := fun space => plain (space ▸ member)
    exact if_neg other

theorem filter_eq_singleton_iff {α : Type} {items : List α} (once : items.Nodup) {item : α}
    (inside : item ∈ items) (chosen : α → Bool) :
    items.filter chosen = [item] ↔ ∀ other ∈ items, chosen other = true ↔ other = item := by
  classical
  constructor
  · intro alone other among
    have passes : other ∈ items.filter chosen ↔ other = item := by
      rw [alone, List.mem_singleton]
    rw [← passes, List.mem_filter]
    exact (and_iff_right among).symm
  · intro only
    have same : items.filter chosen = items.filter (· == item) := by
      apply List.filter_congr
      intro other among
      rw [Bool.eq_iff_iff, only other among, beq_iff_eq]
    rw [same, List.filter_beq, List.count_eq_one_of_mem once inside]
    rfl

theorem flatMap_eq_self {α : Type} {items : List α} {image : α → List α}
    (alone : ∀ item ∈ items, image item = [item]) : items.flatMap image = items := by
  rw [List.flatMap_congr alone, List.flatMap_singleton']

theorem flatMap_map_eq_singleton_iff {α β γ : Type} {pair : α → β → γ}
    (injective : ∀ a b c d, pair a b = pair c d → a = c ∧ b = d) {lefts : List α}
    {rights : List β} (some_right : rights ≠ []) (left : α) (right : β) :
    (lefts.flatMap fun l => rights.map (pair l)) = [pair left right] ↔
      lefts = [left] ∧ rights = [right] := by
  constructor
  · intro single
    obtain ⟨r, others, rfl⟩ := List.exists_cons_of_ne_nil some_right
    cases lefts with
    | nil => cases single
    | cons l rest =>
      simp only [List.flatMap_cons, List.map_cons, List.cons_append, List.cons.injEq,
        List.append_eq_nil_iff, List.map_eq_nil_iff] at single
      obtain ⟨same, rfl, nothing⟩ := single
      obtain ⟨rfl, rfl⟩ := injective _ _ _ _ same
      cases rest with
      | nil => exact ⟨rfl, rfl⟩
      | cons => simp at nothing
  · rintro ⟨rfl, rfl⟩
    rfl

namespace TaskGraph

section Joined

variable {graph : TaskGraph φ} {key : ExportedNode → String} {spelling : String → String}

/-- A key of the exported nodes that depends on the name of the task alone. -/
def KeyedBy (graph : TaskGraph φ) (key : ExportedNode → String) (spelling : String → String) :
    Prop :=
  ∀ node ∈ graph.exportedNodes, key node = spelling node.label

theorem keyedBy_label (graph : TaskGraph φ) : graph.KeyedBy (·.label) id := fun _ _ => rfl

theorem keyedBy_id (graph : TaskGraph φ) : graph.KeyedBy (·.id) nodeId := by
  intro node member
  obtain ⟨task, _, rfl⟩ := List.mem_map.mp member
  rfl

theorem labels_exportedNodes (graph : TaskGraph φ) :
    graph.exportedNodes.map (·.label) = graph.names := by
  simp [exportedNodes, names, Function.comp_def]

theorem knownAs_eq (keyed : graph.KeyedBy key spelling) (name : String) :
    knownAs key graph.exportedNodes name =
      graph.names.filter fun other => spelling other == name := by
  rw [← labels_exportedNodes, List.filter_map, knownAs]
  congr 1
  apply List.filter_congr
  intro node member
  simp [keyed node member]

theorem knownAs_eq_singleton_iff (keyed : graph.KeyedBy key spelling) {name : String}
    (inside : name ∈ graph.names) :
    knownAs key graph.exportedNodes name = [name] ↔
      ∀ other ∈ graph.names, spelling other = name ↔ other = name := by
  have once : graph.names.Nodup := graph.distinct
  rw [knownAs_eq keyed, filter_eq_singleton_iff once inside]
  simp only [beq_iff_eq]

theorem pointees_eq_singleton_iff (keyed : graph.KeyedBy key spelling) (target : Pointer) :
    pointees key graph.exportedNodes target = [target] ↔
      ∀ name, target = some name → ∀ other ∈ graph.names, spelling other = name → other = name := by
  cases target with
  | none => simp [pointees]
  | some name =>
    simp only [pointees, Option.some.injEq, forall_eq']
    split
    · rename_i unknown
      simp only [true_iff]
      intro other among spelled
      rw [knownAs_eq keyed, List.filter_eq_nil_iff] at unknown
      exact absurd (beq_iff_eq.mpr spelled) (unknown other among)
    · rename_i known
      rw [← List.map_singleton, List.map_inj_right fun _ _ => Option.some.inj]
      constructor
      · intro alone other among spelled
        have found : other ∈ knownAs key graph.exportedNodes name := by
          rw [knownAs_eq keyed, List.mem_filter]
          exact ⟨among, beq_iff_eq.mpr spelled⟩
        rw [alone] at found
        exact List.mem_singleton.mp found
      · intro only
        obtain ⟨other, found⟩ := List.exists_mem_of_ne_nil _ known
        rw [knownAs_eq keyed, List.mem_filter, beq_iff_eq] at found
        obtain rfl := only other found.1 found.2
        exact (knownAs_eq_singleton_iff keyed found.1).mpr fun another among =>
          ⟨only another among, fun same => same ▸ found.2⟩

theorem pointees_ne_nil (target : Pointer) : pointees key graph.exportedNodes target ≠ [] := by
  unfold pointees
  split
  · simp
  · split <;> simp_all

theorem joined_eq_singleton_iff (keyed : graph.KeyedBy key spelling) {edge : Edge}
    (member : edge ∈ graph.edges) :
    joined key graph.exportedNodes edge = [edge] ↔
      (∀ other ∈ graph.names, spelling other = edge.source ↔ other = edge.source) ∧
      ∀ target, edge.target = some target →
        ∀ other ∈ graph.names, spelling other = target → other = target := by
  obtain ⟨task, among, _, leaves⟩ := task_of_edge member
  have inside : edge.source ∈ graph.names := List.mem_map.mpr ⟨task, among, leaves.symm⟩
  rw [← knownAs_eq_singleton_iff keyed inside, ← pointees_eq_singleton_iff keyed]
  apply flatMap_map_eq_singleton_iff ?_ (pointees_ne_nil edge.target) edge.source edge.target
  intro source target otherSource otherTarget same
  cases same
  exact ⟨rfl, rfl⟩

end Joined

end TaskGraph

/-- The edges of an exported graph join up with the labels of its nodes: read by them, they are the
edges of the graph. Their ends are the identifiers of the nodes exactly where the names have no
spaces, and read by identifiers an edge is itself exactly if no other name is spelled like one of
its ends. -/
theorem exported_edges_join_by_label (graph : TaskGraph φ) :
    graph.exportedEdges.flatMap (joined (·.label) graph.exportedNodes) = graph.edges ∧
    (∀ edge ∈ graph.exportedEdges, ∀ name ∈ edge.names, ∀ node ∈ graph.exportedNodes,
      node.label = name → (node.id = name ↔ ' ' ∉ name.toList)) ∧
    (∀ edge ∈ graph.exportedEdges, joined (·.id) graph.exportedNodes edge = [edge] ↔
      (∀ other ∈ graph.names, nodeId other = edge.source ↔ other = edge.source) ∧
      ∀ target, edge.target = some target →
        ∀ other ∈ graph.names, nodeId other = target → other = target) ∧
    ((∀ name ∈ graph.names, ' ' ∉ name.toList) →
      graph.exportedEdges.flatMap (joined (·.id) graph.exportedNodes) = graph.edges) := by
  refine ⟨?_, ?_, ?_, ?_⟩
  · apply flatMap_eq_self
    intro edge member
    rw [TaskGraph.joined_eq_singleton_iff graph.keyedBy_label member]
    exact ⟨fun _ _ => Iff.rfl, fun _ _ _ _ same => same⟩
  · intro edge _ name _ node inside label
    have spelled : node.id = nodeId node.label := graph.keyedBy_id node inside
    rw [spelled, label]
    exact nodeId_eq_self_iff name
  · intro edge member
    exact TaskGraph.joined_eq_singleton_iff graph.keyedBy_id member
  · intro plain
    apply flatMap_eq_self
    intro edge member
    have same : ∀ other ∈ graph.names, nodeId other = other := fun other among =>
      (nodeId_eq_self_iff other).mpr (plain other among)
    rw [TaskGraph.joined_eq_singleton_iff graph.keyedBy_id member]
    refine ⟨fun other among => ?_, fun target _ other among spelled => ?_⟩
    · rw [same other among]
    · exact (same other among).symm.trans spelled

theorem retry_exported_edges_join :
    ⟨"fetch", "then", some "check", .next⟩ ∈ Retry.graph.exportedEdges ∧
      "check" ∈ (⟨"fetch", "then", some "check", .next⟩ : Edge).names ∧
      ⟨"check", "check", "choice", false⟩ ∈ Retry.graph.exportedNodes ∧
      ("check" = "check" ↔ ' ' ∉ "check".toList) ∧
      (∀ name ∈ Retry.graph.names, ' ' ∉ name.toList) ∧
      Retry.graph.exportedEdges.flatMap (joined (·.id) Retry.graph.exportedNodes) =
        Retry.graph.edges := by
  have edge : ⟨"fetch", "then", some "check", .next⟩ ∈ Retry.graph.exportedEdges := by decide
  have name : "check" ∈ (⟨"fetch", "then", some "check", .next⟩ : Edge).names := by decide
  have node : ⟨"check", "check", "choice", false⟩ ∈ Retry.graph.exportedNodes := by decide
  have plain : ∀ name ∈ Retry.graph.names, ' ' ∉ name.toList := by decide
  obtain ⟨_, identified, _, joins⟩ := exported_edges_join_by_label Retry.graph
  exact ⟨edge, name, node, identified _ edge _ name _ node rfl, plain, joins plain⟩

def Retry.spaced : TaskGraph Step :=
  .ofList
    [{ Retry.fetch with name := "fetch page", routing := .activity (some "parse page") none },
      { Retry.recover with name := "parse page", routing := .activity none none }]

/-- The edge between them has no end that is the identifier of a node, so nothing of it is found by
identifiers. -/
theorem retry_edges_lost_by_identifiers :
    ⟨"fetch page", "then", some "parse page", .next⟩ ∈ Retry.spaced.exportedEdges ∧
      ⟨"fetch_page", "fetch page", "activity", true⟩ ∈ Retry.spaced.exportedNodes ∧
      (∀ node ∈ Retry.spaced.exportedNodes, node.id ≠ "fetch page" ∧ node.id ≠ "parse page") ∧
      Retry.spaced.exportedEdges.flatMap (joined (·.id) Retry.spaced.exportedNodes) ≠
        Retry.spaced.edges := by
  decide

end Flowtrace
