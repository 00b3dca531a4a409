import Mathlib.Data.Finset.Card
import Mathlib.Data.Finset.Image
import Mathlib.Data.List.Nodup
import Flowtrace.Proofs.ExportedGraph
import Flowtrace.Proofs.Highlighting
import Flowtrace.Proofs.LintSoundness

/-! The nodes of a chart. Whoever draws a chart knows its nodes by their identifiers, and all that
is written under one identifier is one node. The identifier of a task is its name with the spaces
replaced, and the chart has two nodes of its own. So a chart keeps the tasks of its graph apart
exactly if no two of their names differ in spaces for underscores alone and none of them is the
name of one of these two nodes. -/

namespace Flowtrace

variable {φ : Type}

namespace Diagram

/-- A node as a line writes it: its identifier, and behind it its shape, if the line gives it one. -/
structure Mention where
  id : String
  shape : String
deriving DecidableEq

def Mention.text (mention : Mention) : String := mention.id ++ mention.shape

def ownStart : Mention := ⟨"Start", "((start))"⟩

def ownEnd : Mention := ⟨"End", "((end))"⟩

def Node.mention (node : Node) : Mention :=
  ⟨nodeId node.name,
    if node.isChoice then "\x7b" ++ node.name ++ "\x7d" else "[" ++ node.name ++ "]"⟩

def pointedAt : Pointer → Mention
  | some name => ⟨nodeId name, ""⟩
  | none => ownEnd

def Line.mentions : Line → List Mention
  | .entry target _ _ => [ownStart, pointedAt (some target)]
  | .node drawn => [drawn.mention]
  | .edge source _ _ target _ => [source.mention, pointedAt target]
  | .reachedEnd => [ownEnd]
  | .legend => []

/-- The text of a line around the nodes that it writes: an arrow from one to another, perhaps with
a label, or a single node. -/
inductive Spells : String → List Mention → Prop where
  | link (tail head : Mention) (marked traced : Bool) (label : Option String) :
      Spells (tail.text ++ (if marked then ":::traced" else "") ++
        (if traced then "==>" else "-->") ++
        (label.map fun text => "|" ++ text ++ "|").getD "" ++ head.text) [tail, head]
  | single (shown : Mention) (marked : Bool) :
      Spells (shown.text ++ if marked then ":::traced" else "") [shown]
  | legend : Spells "classDef traced fill:green,stroke-width:4px;" []

def Line.ids (line : Line) : List String := line.mentions.map (·.id)

/-- The nodes of a chart. What is written twice under one identifier is one node. -/
def nodes (graph : TaskGraph φ) (result : Option RunResult) : Finset String :=
  ((lines graph result).flatMap Line.ids).toFinset

def ownNodes : Finset String := {ownStart.id, ownEnd.id}

@[simp] theorem Line.ids_entry (target : String) (marked traced : Bool) :
    (Line.entry target marked traced).ids = [ownStart.id, nodeId target] := rfl

@[simp] theorem Line.ids_node (drawn : Node) : (Line.node drawn).ids = [nodeId drawn.name] := rfl

@[simp] theorem Line.ids_edge (source : Node) (label : String) (kind : EdgeKind)
    (target : Pointer) (traced : Bool) :
    (Line.edge source label kind target traced).ids =
      [nodeId source.name, (pointedAt target).id] := rfl

@[simp] theorem Line.ids_reachedEnd : Line.reachedEnd.ids = [ownEnd.id] := rfl

@[simp] theorem Line.ids_legend : Line.legend.ids = [] := rfl

def Line.EndsAt (line : Line) (name : String) : Prop := line.ids.getLast? = some (nodeId name)

def Line.Leads (line : Line) (edge : Edge) : Prop :=
  ∃ source traced, line = .edge source edge.label edge.kind edge.target traced ∧
    source.name = edge.source

/-- Names that are the same but for spaces in the place of underscores. -/
def SpelledAlike (left right : String) : Prop :=
  List.Forall₂ (fun c d => c = d ∨ c ∈ [' ', '_'] ∧ d ∈ [' ', '_']) left.toList right.toList

def PointsTo (target : Pointer) (name : String) : Prop :=
  match target with
  | some other => SpelledAlike name other
  | none => name = ownEnd.id

theorem nodeId_eq_iff (left right : String) :
    nodeId left = nodeId right ↔ SpelledAlike left right := by
  have alike : ∀ c d : Char, (if c = ' ' then '_' else c) = (if d = ' ' then '_' else d) ↔
      c = d ∨ c ∈ [' ', '_'] ∧ d ∈ [' ', '_'] := by
    intro c d
    by_cases first : c = ' '
    · by_cases second : d = ' '
      · simp [first, second]
      · simp [first, second, eq_comm]
    · by_cases second : d = ' '
      · simp [first, second]
      · simp only [first, second, if_false, List.mem_cons, false_or, List.not_mem_nil, or_false]
        exact ⟨.inl, fun same => same.elim id fun both => both.1.trans both.2.symm⟩
  rw [nodeId, nodeId, ← String.toList_inj, String.toList_ofList, String.toList_ofList,
    ← List.forall₂_eq_eq_eq, List.forall₂_map_left_iff, List.forall₂_map_right_iff, SpelledAlike]
  simp only [alike]

/-- A name without spaces and underscores is spelled like no other. -/
theorem nodeId_eq_iff_of_plain {own : String} (spaceless : ' ' ∉ own.toList)
    (unscored : '_' ∉ own.toList) (name : String) : nodeId name = own ↔ name = own := by
  constructor
  · intro same
    have kept : ' ' ∉ name.toList := by
      intro space
      apply unscored
      rw [← same, nodeId, String.toList_ofList]
      exact List.mem_map.mpr ⟨' ', space, rfl⟩
    exact ((nodeId_eq_self_iff name).mpr kept).symm.trans same
  · intro same
    rw [same]
    exact (nodeId_eq_self_iff own).mpr spaceless

theorem nodeId_eq_own_iff {own : String} (member : own ∈ ownNodes) (name : String) :
    nodeId name = own ↔ name = own := by
  have plain : ∀ other ∈ ownNodes, ' ' ∉ other.toList ∧ '_' ∉ other.toList := by decide
  exact nodeId_eq_iff_of_plain (plain own member).1 (plain own member).2 name

theorem spells_line (line : Line) : Spells line.text line.mentions := by
  cases line with
  | entry target marked traced =>
    have spelled := Spells.link ownStart (pointedAt (some target)) marked traced none
    simpa [Line.text, Line.mentions, Mention.text, ownStart, pointedAt, startNode, mark,
      tracedMark, arrow] using spelled
  | node drawn => exact .single drawn.mention drawn.traced
  | edge source label kind target traced =>
    have spelled := Spells.link source.mention (pointedAt target) source.traced traced
      (some (edgeText kind label))
    have ends : targetText target = (pointedAt target).text := by
      cases target with
      | none => rfl
      | some name => simp [targetText, pointedAt, Mention.text]
    simpa [Line.text, Line.mentions, Node.text, Mention.text, Node.mention, mark, tracedMark,
      arrow, ends, String.append_assoc] using spelled
  | reachedEnd => exact .single ownEnd true
  | legend => exact .legend

section Lines

variable {graph : TaskGraph φ} {result : Option RunResult}

/-- A line goes to a task if its edge points to that task or to one that is spelled alike. -/
theorem endsAt_iff_of_leads {line : Line} {edge : Edge} (leads : line.Leads edge) (name : String) :
    line.EndsAt name ↔ PointsTo edge.target name := by
  obtain ⟨source, traced, rfl, _⟩ := leads
  have last : Line.EndsAt (.edge source edge.label edge.kind edge.target traced) name ↔
      (pointedAt edge.target).id = nodeId name := by
    simp [Line.EndsAt]
  rw [last, eq_comm]
  cases edge.target with
  | none => exact nodeId_eq_own_iff (by decide) name
  | some target => exact nodeId_eq_iff name target

theorem leads_of_edge {edge : Edge} (member : edge ∈ graph.edges) :
    ∃ line ∈ lines graph result, line.Leads edge := by
  obtain ⟨task, among, declared, leaves⟩ := TaskGraph.task_of_edge member
  have drawn : task.edges.isEmpty = false :=
    List.isEmpty_eq_false_iff_exists_mem.mpr ⟨edge, declared⟩
  refine ⟨.edge (nodeOf task ((result.map RunResult.visited).getD [])) edge.label edge.kind
    edge.target (decide ((task.name, edge.label) ∈ (result.map RunResult.followed).getD [])), ?_,
    _, _, rfl, leaves.symm⟩
  refine List.mem_append_left _ (List.mem_append_right _ (List.mem_flatMap.mpr ⟨task, among, ?_⟩))
  rw [taskLines, drawn]
  exact List.mem_map.mpr ⟨edge, declared, rfl⟩

theorem ids_entryLines {highlighted : Bool} {id : String} :
    (∃ line ∈ entryLines graph highlighted, id ∈ line.ids) ↔
      ∃ start, graph.startTask? = some start ∧ (id = ownStart.id ∨ id = nodeId start.name) := by
  unfold entryLines
  cases graph.startTask? <;> simp

theorem ids_taskLines {visited : List String} {followed : List (String × String)}
    {task : Task φ} {id : String} :
    (∃ line ∈ taskLines visited followed task, id ∈ line.ids) ↔
      id = nodeId task.name ∨ ∃ edge ∈ task.edges, id = (pointedAt edge.target).id := by
  unfold taskLines
  cases edges : task.edges with
  | nil => simp [nodeOf]
  | cons first rest =>
    simp only [List.isEmpty_cons, Bool.false_eq_true, if_false, List.mem_map,
      exists_exists_and_eq_and, Line.ids_edge, nodeOf, List.mem_cons, List.not_mem_nil, or_false]
    constructor
    · rintro ⟨edge, declared, source | target⟩
      · exact .inl source
      · exact .inr ⟨edge, declared, target⟩
    · rintro (source | ⟨edge, declared, target⟩)
      · exact ⟨first, .inl rfl, .inl source⟩
      · exact ⟨edge, declared, .inr target⟩

theorem ids_closingLines {id : String} :
    (∃ line ∈ closingLines result, id ∈ line.ids) ↔
      id = ownEnd.id ∧ ∃ reached, result = some reached ∧ reached.success = true := by
  cases result with
  | none => simp [closingLines]
  | some reached => cases success : reached.success <;> simp [closingLines, success]

/-- Everything that is a node of a chart. -/
theorem mem_nodes_iff {id : String} :
    id ∈ nodes graph result ↔
      (∃ task ∈ graph.tasks, id = nodeId task.name) ∨
      (∃ edge ∈ graph.edges, id = (pointedAt edge.target).id) ∨
      (graph.tasks ≠ [] ∧ id = ownStart.id) ∨
      id = ownEnd.id ∧ ∃ reached, result = some reached ∧ reached.success = true := by
  have parts : id ∈ nodes graph result ↔
      ((∃ line ∈ entryLines graph result.isSome, id ∈ line.ids) ∨
      ∃ task ∈ graph.tasks, ∃ line ∈ taskLines ((result.map RunResult.visited).getD [])
        ((result.map RunResult.followed).getD []) task, id ∈ line.ids) ∨
      ∃ line ∈ closingLines result, id ∈ line.ids := by
    simp only [nodes, lines, List.mem_toFinset, List.flatMap_append, List.mem_append,
      List.mem_flatMap, List.flatMap_assoc]
  rw [parts, ids_entryLines, ids_closingLines]
  simp only [ids_taskLines]
  constructor
  · rintro ((⟨start, selected, own | entered⟩ | ⟨task, among, own | ⟨edge, declared, target⟩⟩) |
      reached)
    · refine .inr (.inr (.inl ⟨?_, own⟩))
      exact List.ne_nil_of_mem (TaskGraph.startTask?_mem selected)
    · exact .inl ⟨start, TaskGraph.startTask?_mem selected, entered⟩
    · exact .inl ⟨task, among, own⟩
    · exact .inr (.inl ⟨edge, List.mem_flatMap.mpr ⟨task, among, declared⟩, target⟩)
    · exact .inr (.inr (.inr reached))
  · rintro (⟨task, among, own⟩ | ⟨edge, member, target⟩ | ⟨inhabited, own⟩ | reached)
    · exact .inl (.inr ⟨task, among, .inl own⟩)
    · obtain ⟨task, among, declared⟩ := List.mem_flatMap.mp member
      exact .inl (.inr ⟨task, among, .inr ⟨edge, declared, target⟩⟩)
    · have started : graph.startTask? ≠ none := mt TaskGraph.startTask?_eq_none.mp inhabited
      obtain ⟨start, selected⟩ := Option.ne_none_iff_exists'.mp started
      exact .inl (.inl ⟨start, selected, .inl own⟩)
    · exact .inr reached

end Lines

end Diagram

namespace TaskGraph

variable {graph : TaskGraph φ}

/-- The tasks of a graph have identifiers of their own in a chart: each another one, and none that
of a node that the chart has anyway. -/
structure DrawnApart (graph : TaskGraph φ) : Prop where
  distinct : (graph.names.map Diagram.nodeId).Nodup
  fresh : ∀ own ∈ Diagram.ownNodes, own ∉ graph.names.map Diagram.nodeId

open Diagram

theorem own_mem_ids_iff {own : String} (member : own ∈ ownNodes) :
    own ∈ graph.names.map nodeId ↔ own ∈ graph.names := by
  simp only [List.mem_map, nodeId_eq_own_iff member, exists_eq_right]

theorem drawnApart_iff (graph : TaskGraph φ) :
    graph.DrawnApart ↔
      (∀ name ∈ graph.names, ∀ other ∈ graph.names, SpelledAlike name other → name = other) ∧
      ∀ own ∈ ownNodes, own ∉ graph.names := by
  have once : graph.names.Nodup := graph.distinct
  have apart := List.nodup_map_iff_inj_on (f := nodeId) once
  simp only [nodeId_eq_iff] at apart
  constructor
  · intro ⟨distinct, fresh⟩
    exact ⟨apart.mp distinct, fun own member held =>
      fresh own member ((own_mem_ids_iff member).mpr held)⟩
  · intro ⟨distinct, fresh⟩
    exact ⟨apart.mpr distinct, fun own member held =>
      fresh own member ((own_mem_ids_iff member).mp held)⟩

/-- Where no pointer dangles, every node of a chart is the one of a task or one of its own. -/
theorem nodes_sdiff_own
    (led : ∀ edge ∈ graph.edges, ∀ target ∈ edge.target, target ∈ graph.names)
    (result : Option RunResult) :
    nodes graph result \ ownNodes = graph.names.toFinset.image nodeId \ ownNodes := by
  ext id
  rw [Finset.mem_sdiff, Finset.mem_sdiff, mem_nodes_iff, Finset.mem_image]
  apply and_congr_left
  intro foreign
  have notStart : id ≠ ownStart.id := by
    rintro rfl
    exact foreign (by decide)
  have notEnd : id ≠ ownEnd.id := by
    rintro rfl
    exact foreign (by decide)
  constructor
  · rintro (⟨task, among, same⟩ | ⟨edge, member, same⟩ | ⟨_, own⟩ | ⟨own, _⟩)
    · exact ⟨task.name, List.mem_toFinset.mpr (List.mem_map.mpr ⟨task, among, rfl⟩), same.symm⟩
    · cases onward : edge.target with
      | none =>
        rw [onward] at same
        exact absurd same notEnd
      | some target =>
        rw [onward] at same
        exact ⟨target, List.mem_toFinset.mpr (led edge member target onward), same.symm⟩
    · exact absurd own notStart
    · exact absurd own notEnd
  · rintro ⟨name, member, rfl⟩
    obtain ⟨task, among, rfl⟩ := List.mem_map.mp (List.mem_toFinset.mp member)
    exact .inl ⟨task, among, rfl⟩

/-- A chart has one node for each task exactly if the tasks have identifiers of their own. -/
theorem card_nodes_sdiff_own_iff
    (led : ∀ edge ∈ graph.edges, ∀ target ∈ edge.target, target ∈ graph.names)
    (result : Option RunResult) :
    (nodes graph result \ ownNodes).card = graph.size ↔ graph.DrawnApart := by
  have once : graph.names.Nodup := graph.distinct
  have size : graph.names.toFinset.card = graph.size := by
    rw [List.toFinset_card_of_nodup once, names, List.length_map, TaskGraph.size]
  have ids : (graph.names.toFinset.image nodeId).card = graph.size ↔
      (graph.names.map nodeId).Nodup := by
    rw [← size, Finset.card_image_iff, List.nodup_map_iff_inj_on once]
    simp [Set.InjOn]
  have apart : Disjoint (graph.names.toFinset.image nodeId) ownNodes ↔
      ∀ own ∈ ownNodes, own ∉ graph.names.map nodeId := by
    rw [Finset.disjoint_right]
    simp
  rw [nodes_sdiff_own led result]
  constructor
  · intro all
    have most : (graph.names.toFinset.image nodeId).card ≤ graph.size := by
      rw [← size]
      exact Finset.card_image_le
    rw [← all] at most
    have same := Finset.eq_of_subset_of_card_le Finset.sdiff_subset most
    rw [same] at all
    exact ⟨ids.mp all, apart.mp (Finset.sdiff_eq_self_iff_disjoint.mp same)⟩
  · intro drawn
    rw [Finset.sdiff_eq_self_iff_disjoint.mpr (apart.mpr drawn.fresh)]
    exact ids.mpr drawn.distinct

/-- Where the tasks have identifiers of their own, an arrow goes to the one task that its edge
points to. -/
theorem DrawnApart.endsAt_iff (apart : graph.DrawnApart) {line : Line} {edge : Edge}
    (leads : line.Leads edge) (led : ∀ target ∈ edge.target, target ∈ graph.names) {name : String}
    (member : name ∈ graph.names) : line.EndsAt name ↔ edge.target = some name := by
  obtain ⟨distinct, fresh⟩ := graph.drawnApart_iff.mp apart
  rw [endsAt_iff_of_leads leads]
  cases onward : edge.target with
  | none =>
    have other : name ≠ ownEnd.id := by
      rintro rfl
      exact fresh ownEnd.id (by decide) member
    simp [PointsTo, other]
  | some target =>
    have inside := led target onward
    constructor
    · intro alike
      rw [distinct name member target inside alike]
    · intro same
      obtain rfl := Option.some.inj same
      exact (nodeId_eq_iff target target).mp rfl

end TaskGraph

open Diagram in
/-- A chart tells the tasks of its graph by the spelling of their names. Every edge has its line,
and the line ends at the node of each task whose name is spelled like the one that the edge points
to, or at the node that the chart has for the end. So the chart has one node for each task, beside
its own two, exactly if no two names are spelled alike and no task is named like one of these; and
then each line ends at the one task that its edge points to. -/
theorem charts_tell_tasks_by_spelling (graph : TaskGraph φ) (result : Option RunResult) :
    (∀ line ∈ lines graph result, Spells line.text line.mentions) ∧
    (∀ id, id ∈ nodes graph result ↔
      (∃ task ∈ graph.tasks, id = nodeId task.name) ∨
      (∃ edge ∈ graph.edges, id = (pointedAt edge.target).id) ∨
      (graph.tasks ≠ [] ∧ id = ownStart.id) ∨
      id = ownEnd.id ∧ ∃ reached, result = some reached ∧ reached.success = true) ∧
    (∀ edge ∈ graph.edges, ∃ line ∈ lines graph result, line.Leads edge) ∧
    (∀ line ∈ lines graph result, ∀ edge, line.Leads edge →
      ∀ name, line.EndsAt name ↔ PointsTo edge.target name) ∧
    (graph.DrawnApart ↔
      (∀ name ∈ graph.names, ∀ other ∈ graph.names, SpelledAlike name other → name = other) ∧
      ∀ own ∈ ownNodes, own ∉ graph.names) ∧
    ((∀ edge ∈ graph.edges, ∀ target ∈ edge.target, target ∈ graph.names) →
      ((nodes graph result \ ownNodes).card = graph.size ↔ graph.DrawnApart)) ∧
    (graph.DrawnApart → ∀ line ∈ lines graph result, ∀ edge, line.Leads edge →
      (∀ target ∈ edge.target, target ∈ graph.names) →
      ∀ name ∈ graph.names, line.EndsAt name ↔ edge.target = some name) := by
  refine ⟨fun line _ => spells_line line, fun id => mem_nodes_iff, fun edge => leads_of_edge,
    fun line _ edge leads => endsAt_iff_of_leads leads, graph.drawnApart_iff,
    fun led => TaskGraph.card_nodes_sdiff_own_iff led result, ?_⟩
  intro apart line _ edge leads led name member
  exact apart.endsAt_iff leads led member

open Diagram in
theorem retry_tasks_are_told_apart :
    (∀ edge ∈ Retry.mended.edges, ∀ target ∈ edge.target, target ∈ Retry.mended.names) ∧
      Retry.mended.DrawnApart ∧
      (nodes Retry.mended (some Retry.found) \ ownNodes).card = Retry.mended.size ∧
      ∃ line ∈ lines Retry.mended (some Retry.found),
        line.Leads ⟨"fetch", "then", some "check", .next⟩ ∧
        line.EndsAt "check" ∧ ¬ line.EndsAt "recover" := by
  have led : ∀ edge ∈ Retry.mended.edges, ∀ target ∈ edge.target, target ∈ Retry.mended.names := by
    decide
  have apart : Retry.mended.DrawnApart := ⟨by decide, by decide⟩
  have member : ⟨"fetch", "then", some "check", .next⟩ ∈ Retry.mended.edges := by decide
  obtain ⟨_, _, drawn, _, _, counted, ends⟩ :=
    charts_tell_tasks_by_spelling Retry.mended (some Retry.found)
  obtain ⟨line, inside, leads⟩ := drawn _ member
  have arrives := ends apart line inside _ leads (led _ member)
  exact ⟨led, apart, (counted led).mpr apart, line, inside, leads,
    (arrives "check" (by decide)).mpr rfl, mt (arrives "recover" (by decide)).mp (by decide)⟩

def Retry.merged : TaskGraph Step :=
  .ofList
    [{ Retry.fetch with name := "fetch page", routing := .activity (some "fetch_page") none },
      { Retry.recover with name := "fetch_page", routing := .activity (some "End") none },
      { Retry.recover with name := "End", routing := .activity none none }]

open Diagram in
/-- All that is drawn of the three tasks are a node that follows itself and the end, which follows
itself as well. -/
theorem retry_tasks_are_drawn_as_one :
    Retry.merged.names = ["fetch page", "fetch_page", "End"] ∧
      (∀ edge ∈ Retry.merged.edges, ∀ target ∈ edge.target, target ∈ Retry.merged.names) ∧
      (lines Retry.merged none).map Line.text =
        ["Start((start))-->fetch_page", "fetch_page[fetch page]-->|then|fetch_page",
          "fetch_page[fetch_page]-->|then|End", "End[End]-->|then|End((end))"] ∧
      nodes Retry.merged none = {"Start", "fetch_page", "End"} ∧
      ¬ (Retry.merged.names.map nodeId).Nodup ∧ ownEnd.id ∈ Retry.merged.names.map nodeId ∧
      (nodes Retry.merged none \ ownNodes).card ≠ Retry.merged.size := by
  decide

end Flowtrace
