import Flowtrace.Run.Move

/-! Routing without a search: which edge a settled task takes, and when it takes none. An outcome
selects at most one edge, and the edge that it selects is one of the task's own. -/

namespace Flowtrace

variable {φ : Type}

theorem Value.isCaughtBy_eq_true_iff (error : Value) (pattern : String) :
    error.isCaughtBy pattern = true ↔
      ∃ description ∈ error.descriptions, matchesText pattern description = true := by
  simp [isCaughtBy]

theorem Value.isCaughtBy_eq_false_iff (error : Value) (pattern : String) :
    error.isCaughtBy pattern = false ↔
      ∀ description ∈ error.descriptions, matchesText pattern description = false := by
  simp [isCaughtBy]

theorem Value.descriptions_ne_nil (error : Value) : error.descriptions ≠ [] := by
  unfold descriptions
  split <;> simp

/-- One star or two, without a core between them, match every text. -/
theorem matchesText_of_star {pattern : String} (star : pattern = "*" ∨ pattern = "**")
    (text : String) : matchesText pattern text = true := by
  have open_ends : Pattern.ofText pattern = ⟨[], true, true⟩ := by
    rcases star with rfl | rfl <;> decide
  unfold matchesText
  rw [open_ends]
  cases text.toList <;> rfl

theorem Routing.catchEntries_distinct (routing : Routing) :
    (routing.catchEntries.map Prod.fst).Nodup := by
  cases routing with
  | choice branches => exact List.nodup_nil
  | activity next catches =>
    cases catches with
    | none => exact List.nodup_nil
    | some catches => exact catches.distinct

/-- What a task produces when it takes an edge: its value, or the failure behind the pattern that
labels the edge. -/
def Outcome.produced (label : String) : Outcome → Value
  | .success value => value
  | .failure error => .caught label error

namespace Task

/-- What a task hands on. A choice hands on its own payload, whatever it produced. -/
def handedOn (task : Task φ) (payload produced : Value) : Value :=
  if task.routing.isChoice then payload else produced

def kindAfter (task : Task φ) (outcome : Outcome) : EdgeKind :=
  match task.routing, outcome with
  | .choice _, _ => .choice
  | .activity .., .success _ => .next
  | .activity .., .failure _ => .caught

/-- The catch entry at a position matches a description of the failure, and no entry before it
matches any. -/
structure Catches (task : Task φ) (error : Value) (position : Nat) (pattern : String)
    (target : Pointer) : Prop where
  entry : task.routing.catchEntries[position]? = some (pattern, target)
  matching : ∃ description ∈ error.descriptions, matchesText pattern description = true
  first : ∀ (earlier : Nat) (other : String × Pointer), earlier < position →
    task.routing.catchEntries[earlier]? = some other →
    ∀ description ∈ error.descriptions, matchesText other.1 description = false

def Misses (task : Task φ) (error : Value) : Prop :=
  ∀ entry ∈ task.routing.catchEntries,
    ∀ description ∈ error.descriptions, matchesText entry.1 description = false

def Unrecovered (task : Task φ) (error : Value) : Prop :=
  task.routing.isChoice = true ∨ (∃ next, task.routing = .activity next none) ∨
    ∃ next catches, task.routing = .activity next (some catches) ∧
      ∀ pattern ∈ catches.keys,
        ∀ description ∈ error.descriptions, matchesText pattern description = false

inductive Selects (task : Task φ) : Outcome → Edge → Prop where
  | onward {next catches value} (routing : task.routing = .activity next catches) :
      Selects task (.success value) ⟨task.name, thenLabel, next, .next⟩
  | caught {error position pattern target} (caught : task.Catches error position pattern target) :
      Selects task (.failure error) ⟨task.name, pattern, target, .caught⟩
  | branch {branches value target} (routing : task.routing = .choice branches)
      (entry : (value.plain, target) ∈ branches.entries) :
      Selects task (.success value) ⟨task.name, value.plain, target, .choice⟩

/-- An outcome that selects no edge: the fault that the run fails with, the value that it fails
over, and whether that value is itself a fault. -/
inductive Refuses (task : Task φ) : Outcome → Fault → Value → Bool → Prop where
  | unmapped {branches value} (routing : task.routing = .choice branches)
      (unmapped : value.plain ∉ branches.keys) :
      Refuses task (.success value) (.unmappedChoice task.name value.plain) value false
  | missed {error} (missed : task.Misses error) :
      Refuses task (.failure error) (.stepExecution task.name error (some task.unhandledReason))
        error error.toFault?.isSome

theorem catchFor?_eq_some_iff (task : Task φ) (error : Value) (pattern : String)
    (target : Pointer) :
    task.catchFor? error = some (pattern, target) ↔
      ∃ position, task.Catches error position pattern target := by
  rw [catchFor?, List.find?_eq_some_iff_getElem]
  constructor
  · rintro ⟨caught, position, inside, found, before⟩
    refine ⟨position, by simp [inside, found], (error.isCaughtBy_eq_true_iff pattern).mp caught, ?_⟩
    intro earlier other sooner held
    obtain ⟨bound, same⟩ := List.getElem?_eq_some_iff.mp held
    have passed := before earlier sooner
    rw [same] at passed
    exact (error.isCaughtBy_eq_false_iff other.1).mp (by simpa using passed)
  · rintro ⟨position, entry, matching, first⟩
    obtain ⟨inside, found⟩ := List.getElem?_eq_some_iff.mp entry
    refine ⟨(error.isCaughtBy_eq_true_iff pattern).mpr matching, position, inside, found, ?_⟩
    intro earlier sooner
    have passed := first earlier _ sooner (List.getElem?_eq_getElem (Nat.lt_trans sooner inside))
    simpa using (error.isCaughtBy_eq_false_iff _).mpr passed

theorem catchFor?_eq_none_iff (task : Task φ) (error : Value) :
    task.catchFor? error = none ↔ task.Misses error := by
  simp only [catchFor?, List.find?_eq_none, Bool.not_eq_true, Value.isCaughtBy_eq_false_iff, Misses]

theorem catches_of_not_misses {task : Task φ} {error : Value} (caught : ¬ task.Misses error) :
    ∃ position pattern target, task.Catches error position pattern target := by
  cases found : task.catchFor? error with
  | none => exact absurd ((task.catchFor?_eq_none_iff error).mp found) caught
  | some entry =>
    obtain ⟨position, caught⟩ := (task.catchFor?_eq_some_iff error entry.1 entry.2).mp found
    exact ⟨position, entry.1, entry.2, caught⟩

theorem misses_iff (task : Task φ) (error : Value) :
    task.Misses error ↔ task.Unrecovered error := by
  unfold Misses Unrecovered
  cases routing : task.routing with
  | choice branches => simp [Routing.catchEntries, Routing.isChoice]
  | activity next catches =>
    cases catches with
    | none => simp [Routing.catchEntries]
    | some catches =>
      constructor
      · intro missed
        refine .inr (.inr ⟨next, catches, rfl, fun pattern declared => ?_⟩)
        obtain ⟨entry, member, rfl⟩ := List.mem_map.mp declared
        exact missed entry member
      · rintro (choice | ⟨_, undeclared⟩ | ⟨_, _, same, missed⟩) entry member
        · cases choice
        · cases undeclared
        · cases same
          exact missed entry.1 (List.mem_map.mpr ⟨entry, member, rfl⟩)

theorem Catches.unique {task : Task φ} {error : Value} {position other : Nat}
    {pattern otherPattern : String} {target otherTarget : Pointer}
    (left : task.Catches error position pattern target)
    (right : task.Catches error other otherPattern otherTarget) :
    position = other ∧ pattern = otherPattern ∧ target = otherTarget := by
  have same : position = other := by
    rcases Nat.lt_trichotomy position other with sooner | same | later
    · obtain ⟨description, described, matched⟩ := left.matching
      have missed := right.first _ _ sooner left.entry description described
      exact absurd matched (by simp [missed])
    · exact same
    · obtain ⟨description, described, matched⟩ := right.matching
      have missed := left.first _ _ later right.entry description described
      exact absurd matched (by simp [missed])
  subst other
  have entries := left.entry.symm.trans right.entry
  simpa using entries

theorem Catches.position_le {task : Task φ} {error : Value} {position other : Nat}
    {pattern otherPattern : String} {target otherTarget : Pointer}
    (caught : task.Catches error position pattern target)
    (entry : task.routing.catchEntries[other]? = some (otherPattern, otherTarget))
    (matching : ∃ description ∈ error.descriptions, matchesText otherPattern description = true) :
    position ≤ other := by
  refine Nat.le_of_not_lt fun sooner => ?_
  obtain ⟨description, described, matched⟩ := matching
  exact absurd matched (by simp [caught.first other _ sooner entry description described])

inductive Declares (task : Task φ) : Edge → Prop where
  | onward {next catches} (routing : task.routing = .activity next catches) :
      Declares task ⟨task.name, thenLabel, next, .next⟩
  | caught {pattern target} (entry : (pattern, target) ∈ task.routing.catchEntries) :
      Declares task ⟨task.name, pattern, target, .caught⟩
  | branch {branches key target} (routing : task.routing = .choice branches)
      (entry : (key, target) ∈ branches.entries) :
      Declares task ⟨task.name, key, target, .choice⟩

theorem mem_edges_iff {task : Task φ} {edge : Edge} : edge ∈ task.edges ↔ task.Declares edge := by
  constructor
  · intro member
    unfold edges at member
    split at member
    · rename_i next catches routing
      rcases List.mem_cons.mp member with rfl | caught
      · exact .onward routing
      · obtain ⟨⟨pattern, target⟩, entry, rfl⟩ := List.mem_map.mp caught
        cases catches with
        | none => cases entry
        | some catches => exact .caught (by simpa [Routing.catchEntries, routing] using entry)
    · rename_i branches routing
      obtain ⟨⟨key, target⟩, entry, rfl⟩ := List.mem_map.mp member
      exact .branch routing entry
  · intro declares
    cases declares with
    | onward routing => simp [edges, routing]
    | caught entry =>
      unfold Routing.catchEntries at entry
      split at entry
      · rename_i routing
        simp [edges, routing, entry]
      · cases entry
    | branch routing entry => simp [edges, routing, entry]

theorem source_of_edge {task : Task φ} {edge : Edge} (member : edge ∈ task.edges) :
    edge.source = task.name := by
  cases mem_edges_iff.mp member <;> rfl

theorem Selects.edge {task : Task φ} {outcome : Outcome} {edge : Edge}
    (selects : task.Selects outcome edge) :
    edge ∈ task.edges ∧ edge.source = task.name ∧ edge.kind = task.kindAfter outcome := by
  cases selects with
  | onward routing => exact ⟨mem_edges_iff.mpr (.onward routing), rfl, by simp [kindAfter, routing]⟩
  | caught caught =>
    have entry := List.mem_of_getElem? caught.entry
    refine ⟨mem_edges_iff.mpr (.caught entry), rfl, ?_⟩
    cases routing : task.routing with
    | activity next catches => simp [kindAfter, routing]
    | choice branches => simp [routing, Routing.catchEntries] at entry
  | branch routing entry =>
    exact ⟨mem_edges_iff.mpr (.branch routing entry), rfl, by simp [kindAfter, routing]⟩

private theorem afterSuccess_cases (task : Task φ) (payload value : Value) :
    (∃ edge, task.Selects (.success value) edge ∧
      task.afterSuccess payload value =
        .along edge.label edge.target value (task.handedOn payload value)) ∨
    ∃ fault, task.Refuses (.success value) fault value false ∧
      task.afterSuccess payload value = .refuse fault value false := by
  cases routing : task.routing with
  | activity next catches =>
    exact .inl ⟨_, .onward routing, by simp [afterSuccess, handedOn, routing, Routing.isChoice]⟩
  | choice branches =>
    cases found : branches.get? value.plain with
    | some target =>
      have entry := (branches.get?_eq_some_iff _ _).mp found
      exact .inl ⟨_, .branch routing entry,
        by simp [afterSuccess, handedOn, routing, found, Routing.isChoice]⟩
    | none =>
      have unmapped : value.plain ∉ branches.keys := by
        intro declared
        obtain ⟨⟨key, target⟩, member, rfl⟩ := List.mem_map.mp declared
        have present := (branches.get?_eq_some_iff _ _).mpr member
        exact absurd (found.symm.trans present) (by simp)
      exact .inr ⟨_, .unmapped routing unmapped, by simp [afterSuccess, routing, found]⟩

private theorem afterFailure_cases (task : Task φ) (payload error : Value) :
    (∃ edge, task.Selects (.failure error) edge ∧
      task.afterFailure error =
        .along edge.label edge.target (.caught edge.label error)
          (task.handedOn payload (.caught edge.label error))) ∨
    ∃ fault, task.Refuses (.failure error) fault error error.toFault?.isSome ∧
      task.afterFailure error = .refuse fault error error.toFault?.isSome := by
  cases found : task.catchFor? error with
  | none =>
    have missed := (task.catchFor?_eq_none_iff error).mp found
    exact .inr ⟨_, .missed missed, by simp [afterFailure, found]⟩
  | some entry =>
    obtain ⟨pattern, target⟩ := entry
    obtain ⟨position, caught⟩ := (task.catchFor?_eq_some_iff error pattern target).mp found
    have activity : task.routing.isChoice = false := by
      cases routing : task.routing with
      | activity next catches => rfl
      | choice branches => simp [catchFor?, routing, Routing.catchEntries] at found
    exact .inl ⟨_, .caught caught, by simp [afterFailure, found, handedOn, activity]⟩

/-- Everything that routing can decide: a settled task moves along the edge that its outcome
selects, or its outcome selects none and the run is refused. -/
theorem nextMove_cases (task : Task φ) (payload : Value) (outcome : Outcome) :
    (∃ edge, task.Selects outcome edge ∧
      task.nextMove payload outcome =
        .along edge.label edge.target (outcome.produced edge.label)
          (task.handedOn payload (outcome.produced edge.label))) ∨
    ∃ fault output chained, task.Refuses outcome fault output chained ∧
      task.nextMove payload outcome = .refuse fault output chained := by
  cases outcome with
  | success value =>
    rcases task.afterSuccess_cases payload value with selected | ⟨fault, refused, moved⟩
    · exact .inl selected
    · exact .inr ⟨fault, value, false, refused, moved⟩
  | failure error =>
    rcases task.afterFailure_cases payload error with selected | ⟨fault, refused, moved⟩
    · exact .inl selected
    · exact .inr ⟨fault, error, _, refused, moved⟩

theorem edge_of_follow {task : Task φ} {payload : Value} {outcome : Outcome}
    {label target : String} {produced carried : Value}
    (moves : task.nextMove payload outcome = .follow label target produced carried) :
    ∃ edge ∈ task.edges, edge.label = label ∧ edge.target = some target := by
  rcases task.nextMove_cases payload outcome with
    ⟨edge, selects, moved⟩ | ⟨fault, output, chained, _, moved⟩
  · rw [moved] at moves
    cases onward : edge.target with
    | none => simp [Move.along, onward] at moves
    | some next =>
      simp only [Move.along, onward, Move.follow.injEq] at moves
      obtain ⟨label, rfl, _⟩ := moves
      exact ⟨edge, selects.edge.1, label, onward⟩
  · rw [moved] at moves
    cases moves

end Task

end Flowtrace
