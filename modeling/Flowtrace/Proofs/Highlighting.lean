import Mathlib.Data.List.Forall2
import Flowtrace.Diagram
import Flowtrace.Proofs.FollowedEdges

/-! The chart of a run. It has the lines of the plain chart, with marks on the tasks that the run
entered and heavy arrows for the edges that it followed. Nothing that the run did is left out, but
an arrow is chosen by source and label alone, so homonymous edges are always drawn alike. -/

namespace Flowtrace

variable {φ : Type}

open Diagram

namespace Diagram

/-- A line shows a node, by itself or at the tail of an arrow. -/
inductive Line.Shows : Line → Node → Prop where
  | bare (node : Node) : Shows (.node node) node
  | leaving (node : Node) (label : String) (kind : EdgeKind) (target : Pointer) (traced : Bool) :
      Shows (.edge node label kind target traced) node

def Line.Draws (line : Line) (edge : Edge) (shape : String) : Prop :=
  ∃ source traced, line = .edge source edge.label edge.kind edge.target traced ∧
    source.name = edge.source ∧
    line.text = source.text ++ shape ++ "|" ++ edgeText edge.kind edge.label ++ "|" ++
      targetText edge.target

def DrawnWith (graph : TaskGraph φ) (result : RunResult) (edge : Edge) (shape : String) : Prop :=
  ∃ line ∈ lines graph (some result), line.Draws edge shape

/-- The texts of a line without and with its highlighting: between what the line shows and the
rest there is another arrow or a mark, and nothing else differs. -/
inductive Restyled : String → String → Prop where
  | arrow (shown rest : String) (marked traced : Bool) :
      Restyled (shown ++ "-->" ++ rest)
        (shown ++ (if marked then ":::traced" else "") ++ (if traced then "==>" else "-->") ++ rest)
  | bare (shown : String) (marked : Bool) :
      Restyled shown (shown ++ if marked then ":::traced" else "")

structure Redraws (plain drawn : Line) : Prop where
  same : drawn.plain = plain
  restyled : Restyled plain.text drawn.text
  midway : drawn ≠ .reachedEnd ∧ drawn ≠ .legend

inductive Closes : Ending φ → List String → Prop where
  | returned (result : RunResult) :
      Closes (.returned result)
        ["End((end)):::traced", "classDef traced fill:green,stroke-width:4px;"]
  | raised (failure : Raised φ) :
      Closes (.raised failure) ["classDef traced fill:green,stroke-width:4px;"]

theorem Node.text_eq (node : Node) :
    node.text = { node with traced := false }.text ++ mark node.traced := by
  simp [Node.text, mark]

theorem Line.restyled (line : Line) (midway : line ≠ .reachedEnd ∧ line ≠ .legend) :
    Restyled line.plain.text line.text := by
  cases line with
  | entry target marked traced =>
    have styled := Restyled.arrow startNode (nodeId target) marked traced
    simpa [Line.plain, Line.text, mark, arrow, tracedMark] using styled
  | node drawn =>
    have styled := Restyled.bare (Node.text { drawn with traced := false }) drawn.traced
    rw [Line.plain, Line.text, Line.text, drawn.text_eq]
    exact styled
  | edge source label kind target traced =>
    have styled := Restyled.arrow (Node.text { source with traced := false })
      ("|" ++ edgeText kind label ++ "|" ++ targetText target) source.traced traced
    rw [Line.plain, Line.text, Line.text, source.text_eq]
    simp only [String.append_assoc] at styled ⊢
    exact styled
  | reachedEnd => exact absurd rfl midway.1
  | legend => exact absurd rfl midway.2

theorem taskLines_plain (visited : List String) (followed : List (String × String))
    (task : Task φ) : (taskLines visited followed task).map Line.plain = taskLines [] [] task := by
  unfold taskLines
  split
  · rfl
  · simp [Line.plain, nodeOf]

theorem entryLines_plain (graph : TaskGraph φ) (highlighted : Bool) :
    (entryLines graph highlighted).map Line.plain = entryLines graph false := by
  unfold entryLines
  cases graph.startTask? <;> rfl

def bodyLines (graph : TaskGraph φ) (result : RunResult) : List Line :=
  entryLines graph true ++ graph.tasks.flatMap (taskLines result.visited result.followed)

theorem lines_eq (graph : TaskGraph φ) (result : RunResult) :
    lines graph (some result) = bodyLines graph result ++ closingLines (some result) := rfl

/-- A task is drawn by itself if no edge leaves it, and otherwise at the tail of its edges. -/
inductive BodyLine (graph : TaskGraph φ) (result : RunResult) : Line → Prop where
  | entry {start} (selected : graph.startTask? = some start) :
      BodyLine graph result (.entry start.name true true)
  | bare {task} (among : task ∈ graph.tasks) (last : task.edges = []) :
      BodyLine graph result (.node (nodeOf task result.visited))
  | leaving {task edge} (among : task ∈ graph.tasks) (declared : edge ∈ task.edges) :
      BodyLine graph result (.edge (nodeOf task result.visited) edge.label edge.kind edge.target
        (decide ((task.name, edge.label) ∈ result.followed)))

section Body

variable {graph : TaskGraph φ} {result : RunResult} {line : Line}

theorem mem_taskLines_iff {task : Task φ} :
    line ∈ taskLines result.visited result.followed task ↔
      task.edges = [] ∧ line = .node (nodeOf task result.visited) ∨
      ∃ edge ∈ task.edges, line = .edge (nodeOf task result.visited) edge.label edge.kind
        edge.target (decide ((task.name, edge.label) ∈ result.followed)) := by
  unfold taskLines
  cases edges : task.edges with
  | nil => simp
  | cons edge rest => simp [eq_comm]

theorem mem_bodyLines_iff : line ∈ bodyLines graph result ↔ BodyLine graph result line := by
  rw [bodyLines, List.mem_append, List.mem_flatMap]
  constructor
  · rintro (entry | ⟨task, among, drawn⟩)
    · unfold entryLines at entry
      split at entry
      · rename_i start selected
        obtain rfl := List.mem_singleton.mp entry
        exact .entry selected
      · cases entry
    · rcases mem_taskLines_iff.mp drawn with ⟨last, rfl⟩ | ⟨edge, declared, rfl⟩
      · exact .bare among last
      · exact .leaving among declared
  · intro body
    cases body with
    | entry selected => exact .inl (by simp [entryLines, selected])
    | bare among last => exact .inr ⟨_, among, mem_taskLines_iff.mpr (.inl ⟨last, rfl⟩)⟩
    | leaving among declared =>
      exact .inr ⟨_, among, mem_taskLines_iff.mpr (.inr ⟨_, declared, rfl⟩)⟩

theorem BodyLine.midway (body : BodyLine graph result line) :
    line ≠ .reachedEnd ∧ line ≠ .legend := by
  cases body <;> simp

theorem mem_lines_iff (midway : line ≠ .reachedEnd ∧ line ≠ .legend) :
    line ∈ lines graph (some result) ↔ BodyLine graph result line := by
  have elsewhere : line ∉ closingLines (some result) := by
    cases reached : result.success <;> simp [closingLines, reached, midway]
  rw [lines_eq, List.mem_append, mem_bodyLines_iff]
  exact or_iff_left elsewhere

theorem redraws_bodyLines (graph : TaskGraph φ) (result : RunResult) :
    List.Forall₂ Redraws (lines graph none) (bodyLines graph result) := by
  have plain : lines graph none = (bodyLines graph result).map Line.plain := by
    rw [bodyLines, List.map_append, List.map_flatMap, entryLines_plain]
    simp only [taskLines_plain, lines, closingLines, List.append_nil]
    rfl
  rw [plain, List.forall₂_map_left_iff, List.forall₂_same]
  intro line member
  have midway := (mem_bodyLines_iff.mp member).midway
  exact ⟨rfl, line.restyled midway, midway⟩

theorem shows_iff {node : Node} :
    (∃ line ∈ lines graph (some result), line.Shows node) ↔
      ∃ task ∈ graph.tasks, node = nodeOf task result.visited := by
  constructor
  · intro ⟨line, member, shows⟩
    have midway : line ≠ .reachedEnd ∧ line ≠ .legend := by cases shows <;> simp
    cases (mem_lines_iff midway).mp member with
    | entry => cases shows
    | bare among | leaving among =>
      cases shows
      exact ⟨_, among, rfl⟩
  · intro ⟨task, among, same⟩
    subst same
    cases edges : task.edges with
    | nil => exact ⟨_, (mem_lines_iff (by simp)).mpr (.bare among edges), .bare _⟩
    | cons edge rest =>
      have declared : edge ∈ task.edges := by simp [edges]
      exact ⟨_, (mem_lines_iff (by simp)).mpr (.leaving among declared), .leaving _ _ _ _ _⟩

theorem drawnWith_iff {edge : Edge} (member : edge ∈ graph.edges) (shape : String) :
    DrawnWith graph result edge shape ↔
      shape = arrow (decide ((edge.source, edge.label) ∈ result.followed)) := by
  constructor
  · intro ⟨line, among, source, traced, same, leaves, text⟩
    have midway : line ≠ .reachedEnd ∧ line ≠ .legend := by simp [same]
    cases (mem_lines_iff midway).mp among with
    | entry => cases same
    | bare => cases same
    | @leaving task drawn =>
      simp only [Line.edge.injEq] at same
      obtain ⟨rfl, label, kind, target, _⟩ := same
      -- The texts are the same on both sides of the arrow, and so is the arrow.
      have named : task.name = edge.source := leaves
      rw [Line.text, label, kind, target] at text
      simpa [named] using text.symm
  · intro same
    subst same
    obtain ⟨task, among, declared, leaves⟩ := TaskGraph.task_of_edge member
    refine ⟨_, (mem_lines_iff (by simp)).mpr (.leaving among declared), _, _, rfl, leaves.symm, ?_⟩
    rw [Line.text, leaves]

theorem heavy_iff {edge : Edge} (member : edge ∈ graph.edges) :
    DrawnWith graph result edge "==>" ↔ (edge.source, edge.label) ∈ result.followed := by
  rw [drawnWith_iff member]
  by_cases followed : (edge.source, edge.label) ∈ result.followed <;> simp [followed, arrow]

end Body

structure Highlights (engine : Engine φ) (graph : TaskGraph φ) (visits : List (Visit φ))
    (ending : Ending φ) (result : RunResult) : Prop where
  written : ∀ shown, graph.flowchart shown =
    "\n    ".intercalate ("flowchart TD" :: (lines graph shown).map Line.text)
  redrawn : ∃ body closing, lines graph (some result) = body ++ closing ∧
    List.Forall₂ Redraws (lines graph none) body ∧ Closes ending (closing.map Line.text)
  transitions : ∀ position, position + 1 < result.transitions.length →
    ∃ edge ∈ graph.edges, FollowedAt engine visits result position edge ∧
      DrawnWith graph result edge "==>"
  edges : ∀ edge, Followed engine visits result edge → DrawnWith graph result edge "==>"
  shown : ∀ task ∈ graph.tasks, ∃ line ∈ lines graph (some result), ∃ node, line.Shows node ∧
    node.name = task.name
  marked : ∀ task ∈ graph.tasks, ∀ line ∈ lines graph (some result), ∀ node, line.Shows node →
    node.name = task.name → node.text = Node.text ⟨task.name, task.routing.isChoice, false⟩ ++
      if task.name ∈ result.visited then ":::traced" else ""

section Highlights

variable {engine : Engine φ} {graph : TaskGraph φ} {input : Value} {context : Context}
  {visits : List (Visit φ)} {ending : Ending φ} {result : RunResult}

/-- The chart can tell the edges of a run from others by their sources and labels alone. -/
theorem heavy_iff_alike (concludes : Concludes engine graph input context visits ending)
    (reported : ending.result? = some result) {edge : Edge} (member : edge ∈ graph.edges) :
    DrawnWith graph result edge "==>" ↔
      ∃ followed, Followed engine visits result followed ∧
        (followed = edge ∨ followed.Homonym edge) := by
  rw [heavy_iff member, concludes.mem_followed_iff reported]
  apply exists_congr
  intro followed
  constructor
  · intro ⟨taken, source, label⟩
    have inside := taken.mem (concludes.isPath reported)
    exact ⟨taken, TaskGraph.eq_or_homonym inside member source label⟩
  · rintro ⟨taken, rfl | homonym⟩
    · exact ⟨taken, rfl, rfl⟩
    · exact ⟨taken, homonym.source, homonym.label.trans homonym.shared.symm⟩

theorem heavy_of_followed (concludes : Concludes engine graph input context visits ending)
    (reported : ending.result? = some result) {edge : Edge}
    (followed : Followed engine visits result edge) : DrawnWith graph result edge "==>" := by
  have member := followed.mem (concludes.isPath reported)
  exact (heavy_iff_alike concludes reported member).mpr ⟨edge, followed, .inl rfl⟩

theorem closes_closingLines (concludes : Concludes engine graph input context visits ending)
    (reported : ending.result? = some result) :
    Closes ending ((closingLines (some result)).map Line.text) := by
  cases reached : result.success with
  | true =>
    rw [(concludes.success_iff reported).mp reached, closingLines, reached]
    exact .returned result
  | false =>
    rw [closingLines, reached]
    cases ending with
    | returned returned =>
      cases reported
      exact absurd ((concludes.success_iff rfl).mpr rfl) (by simp [reached])
    | raised failure => exact .raised failure

theorem marked_of_shows {task : Task φ} (among : task ∈ graph.tasks) {line : Line}
    (member : line ∈ lines graph (some result)) {node : Node} (shows : line.Shows node)
    (name : node.name = task.name) :
    node.text = Node.text ⟨task.name, task.routing.isChoice, false⟩ ++
      if task.name ∈ result.visited then ":::traced" else "" := by
  obtain ⟨other, inside, same⟩ := shows_iff.mp ⟨line, member, shows⟩
  subst same
  obtain rfl : other = task := List.inj_on_of_nodup_map graph.distinct inside among name
  rw [Node.text_eq]
  by_cases entered : other.name ∈ result.visited <;>
    simp [nodeOf, mark, tracedMark, entered]

end Highlights

end Diagram

/-- The chart of a run draws an edge with a heavy arrow exactly if the run followed that edge or
its homonym. So it shows exactly the path of the run, unless an activity catches by a pattern that
is spelled like the label of success. -/
theorem highlighting_tells_edges_by_label (engine : Engine φ) (graph : TaskGraph φ) (input : Value)
    (context : Context) (turns : Nat) (ending : Ending φ) (result : RunResult)
    (ended : (engine.run turns graph input context).ending? = some ending)
    (reported : ending.result? = some result) :
    (∀ edge ∈ graph.edges, DrawnWith graph result edge "==>" ↔
      ∃ followed, Followed engine (engine.visits turns graph input context) result followed ∧
        (followed = edge ∨ followed.Homonym edge)) ∧
    ((∀ task ∈ graph.tasks, ∀ entry ∈ task.routing.catchEntries, entry.1 ≠ thenLabel) →
      ∀ edge ∈ graph.edges, DrawnWith graph result edge "==>" ↔
        Followed engine (engine.visits turns graph input context) result edge) := by
  have concludes := Engine.concludes_of_reported ended reported
  constructor
  · intro edge member
    exact heavy_iff_alike concludes reported member
  · intro plain edge member
    rw [heavy_iff_alike concludes reported member]
    constructor
    · rintro ⟨followed, taken, rfl | homonym⟩
      · exact taken
      · have inside := taken.mem (concludes.isPath reported)
        exact absurd homonym (TaskGraph.not_homonym plain inside member)
    · intro taken
      exact ⟨edge, taken, .inl rfl⟩

theorem retry_highlighting_tells_edges_by_label :
    (Retry.engine.run 14 Retry.graph .null (Retry.reply "found")).ending? =
        some (.returned Retry.found) ∧
      (Ending.returned Retry.found : Ending Step).result? = some Retry.found ∧
      (∀ task ∈ Retry.graph.tasks, ∀ entry ∈ task.routing.catchEntries, entry.1 ≠ thenLabel) ∧
      ⟨"fetch", "*Timeout*", some "recover", .caught⟩ ∈ Retry.graph.edges ∧
      (DrawnWith Retry.graph Retry.found ⟨"fetch", "*Timeout*", some "recover", .caught⟩ "==>" ↔
        Followed Retry.engine (Retry.engine.visits 14 Retry.graph .null (Retry.reply "found"))
          Retry.found ⟨"fetch", "*Timeout*", some "recover", .caught⟩) := by
  have plain : ∀ task ∈ Retry.graph.tasks, ∀ entry ∈ task.routing.catchEntries,
      entry.1 ≠ thenLabel := by
    decide
  have member : ⟨"fetch", "*Timeout*", some "recover", .caught⟩ ∈ Retry.graph.edges := by decide
  exact ⟨rfl, rfl, plain, member,
    (highlighting_tells_edges_by_label Retry.engine Retry.graph .null (Retry.reply "found") 14
      (.returned Retry.found) Retry.found rfl rfl).2 plain _ member⟩

def Retry.spelled : Task Step where
  name := "fetch"
  step := ⟨.direct, fun payload context => ⟨.returned payload, context, []⟩⟩
  routing := .activity none (some (.ofList [("then", some "recover")]))
  start := true

def Retry.succeeded : RunResult where
  success := true
  transitions := [.entry "fetch" .null, .exit "fetch" "then" .null]
  output := .null
  context := []

/-- The step succeeds and the run is over, and still its chart has a heavy arrow for the way to the
task that recovers. -/
theorem retry_highlights_an_edge_not_followed :
    (Retry.engine.run 6 (.ofList [Retry.spelled, Retry.recover]) .null []).ending? =
        some (.returned Retry.succeeded) ∧
      (Ending.returned Retry.succeeded : Ending Step).result? = some Retry.succeeded ∧
      ⟨"fetch", "then", some "recover", .caught⟩ ∈
        (TaskGraph.ofList [Retry.spelled, Retry.recover]).edges ∧
      DrawnWith (.ofList [Retry.spelled, Retry.recover]) Retry.succeeded
        ⟨"fetch", "then", some "recover", .caught⟩ "==>" ∧
      ¬ Followed Retry.engine
        (Retry.engine.visits 6 (.ofList [Retry.spelled, Retry.recover]) .null [])
        Retry.succeeded ⟨"fetch", "then", some "recover", .caught⟩ := by
  have member : ⟨"fetch", "then", some "recover", .caught⟩ ∈
      (TaskGraph.ofList [Retry.spelled, Retry.recover]).edges := by decide
  refine ⟨rfl, rfl, member, (heavy_iff member).mpr (by decide), ?_⟩
  rintro ⟨position, followed⟩
  cases followed with
  | @intro visit outcome transition edge made settled recorded follows =>
    -- The one transition that follows an edge leaves the workflow.
    have left : transition.destination = some "recover" := follows.target
    cases position with
    | zero =>
      cases recorded
      cases left
    | succ position => cases recorded

/-- Every run that reports a result is shown in full: its chart is the plain chart of the graph,
line by line, but for arrows and marks; each of its transitions follows an edge that has the heavy
arrow, and the marks are on the tasks that it entered. The lines behind the last task say whether
it reached the end. -/
theorem highlighting_is_complete_and_decorative (engine : Engine φ) (graph : TaskGraph φ)
    (input : Value) (context : Context) (turns : Nat) (ending : Ending φ) (result : RunResult)
    (ended : (engine.run turns graph input context).ending? = some ending)
    (reported : ending.result? = some result) :
    Highlights engine graph (engine.visits turns graph input context) ending result := by
  have concludes := Engine.concludes_of_reported ended reported
  constructor
  · intro shown
    rfl
  · exact ⟨_, _, lines_eq graph result, redraws_bodyLines graph result,
      closes_closingLines concludes reported⟩
  · intro position inside
    obtain ⟨edge, member, followed⟩ :=
      (concludes.isPath reported).followedAt (List.getElem?_eq_getElem inside)
    exact ⟨edge, member, followed, heavy_of_followed concludes reported ⟨position, followed⟩⟩
  · intro edge followed
    exact heavy_of_followed concludes reported followed
  · intro task among
    obtain ⟨line, member, shows⟩ := shows_iff.mpr ⟨task, among, rfl⟩
    exact ⟨line, member, _, shows, rfl⟩
  · intro task among line member node shows name
    exact marked_of_shows among member shows name

theorem retry_highlighting_is_complete :
    (Retry.engine.run 14 Retry.graph .null (Retry.reply "found")).ending? =
        some (.returned Retry.found) ∧
      (Ending.returned Retry.found : Ending Step).result? = some Retry.found ∧
      Highlights Retry.engine Retry.graph
        (Retry.engine.visits 14 Retry.graph .null (Retry.reply "found"))
        (.returned Retry.found) Retry.found :=
  ⟨rfl, rfl, highlighting_is_complete_and_decorative Retry.engine Retry.graph .null
    (Retry.reply "found") 14 (.returned Retry.found) Retry.found rfl rfl⟩

end Flowtrace
