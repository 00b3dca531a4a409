import Mathlib.Data.List.Induction
import Flowtrace.Proofs.Collected
import Flowtrace.Proofs.Flattening

/-! Networks as they are built, one act after another: builders are created, and calls link them
to builders that are there already. What is made of a builder depends on the calls on it alone, in
their order. Which calls on others come before them, between them and after them is of no account,
and so a network depends only on its builders and on what was called on each. -/

namespace Flowtrace

variable {φ : Type}

structure Blank (φ : Type) where
  name : String
  step : φ
  start : Bool
  isChoice : Bool

/-- What is done to a network. Builders are numbered as they are created. -/
inductive Act (φ : Type) where
  | create (blank : Blank φ)
  | call (position : Nat) (link : Link)

namespace Act

def blank? : Act φ → Option (Blank φ)
  | .create blank => some blank
  | .call .. => none

def callee? : Act φ → Option Nat
  | .create _ => none
  | .call position _ => some position

def link? (position : Nat) : Act φ → Option Link
  | .create _ => none
  | .call callee link => if callee = position then some link else none

end Act

def created (acts : List (Act φ)) : List (Blank φ) := acts.filterMap Act.blank?

def callsOn (position : Nat) (acts : List (Act φ)) : List Link := acts.filterMap (Act.link? position)

/-- Acts on a network of so many builders. A call is on a builder that is there, and leads to one
that is there or to the end. -/
def Performable (size : Nat) : List (Act φ) → Prop
  | [] => True
  | .create _ :: acts => Performable (size + 1) acts
  | .call position link :: acts =>
    (position < size ∧ ∀ target ∈ link.target, target < size) ∧ Performable size acts

namespace Link

def next? : Link → Option (Option Nat)
  | .next target => some target
  | .caught .. | .branch .. => none

def caught? : Link → Option (String × Option Nat)
  | .caught pattern target => some (pattern, target)
  | .next _ | .branch .. => none

def branch? : Link → Option (String × Option Nat)
  | .branch key target => some (key, target)
  | .next _ | .caught .. => none

end Link

/-- The name of the builder that is linked to. The end has none. -/
def nameAmong (blanks : List (Blank φ)) (target : Option Nat) : Pointer :=
  target.bind fun position => blanks[position]?.map (·.name)

/-- A mapping of what was declared: every declared key once, in the order of the first
declarations, with the name that its last declaration leads to. -/
structure Collects (named : Option Nat → Pointer) (declared : List (String × Option Nat))
    (map : OrderedMap String Pointer) : Prop where
  keys : map.keys = (declared.map Prod.fst).eraseDups
  last : ∀ before key target after, declared = before ++ (key, target) :: after →
    key ∉ after.map Prod.fst → map.get? key = some (named target)

/-- What the calls on a builder make of an activity or of a choice. -/
inductive Folds (named : Option Nat → Pointer) (calls : List Link) : Bool → Routing → Prop where
  | activity (next : Pointer) (catches : Option (OrderedMap String Pointer))
      (unlinked : calls.filterMap Link.next? = [] → next = none)
      (last : ∀ before target, calls.filterMap Link.next? = before ++ [target] →
        next = named target)
      (uncaught : catches = none ↔ calls.filterMap Link.caught? = [])
      (caught : ∀ map, catches = some map → Collects named (calls.filterMap Link.caught?) map) :
      Folds named calls false (.activity next catches)
  | choice (branches : OrderedMap String Pointer)
      (declared : Collects named (calls.filterMap Link.branch?) branches) :
      Folds named calls true (.choice branches)

namespace Blank

def links (blank : Blank φ) (calls : List Link) : Links :=
  calls.foldl Links.add (if blank.isChoice then .choice .empty else .activity none .empty)

def after (blank : Blank φ) (calls : List Link) : Builder φ :=
  ⟨blank.name, blank.step, blank.start, blank.links calls⟩

theorem links_concat (blank : Blank φ) (calls : List Link) (link : Link) :
    blank.links (calls ++ [link]) = (blank.links calls).add link := by
  simp [links]

theorem links_of_activity {blank : Blank φ} (kind : blank.isChoice = false) (calls : List Link) :
    blank.links calls =
      .activity (calls.filterMap Link.next?).getLast?.join
        (.ofList (calls.filterMap Link.caught?)) := by
  induction calls using List.reverseRecOn with
  | nil => simp [links, kind, OrderedMap.ofList]
  | append_singleton calls link ih =>
    rw [links_concat, ih]
    cases link <;>
      simp [Links.add, List.filterMap_cons, Link.next?, Link.caught?, OrderedMap.ofList_concat]

theorem links_of_choice {blank : Blank φ} (kind : blank.isChoice = true) (calls : List Link) :
    blank.links calls = .choice (.ofList (calls.filterMap Link.branch?)) := by
  induction calls using List.reverseRecOn with
  | nil => simp [links, kind, OrderedMap.ofList]
  | append_singleton calls link ih =>
    rw [links_concat, ih]
    cases link <;> simp [Links.add, List.filterMap_cons, Link.branch?, OrderedMap.ofList_concat]

end Blank

theorem collects_ofList (named : Option Nat → Pointer) (declared : List (String × Option Nat)) :
    Collects named declared ((OrderedMap.ofList declared).mapValues named) where
  keys := by rw [OrderedMap.keys_mapValues, OrderedMap.keys_ofList]
  last := by
    intro before key target after split undeclared
    have passed : (after.filter fun entry => decide (entry.1 = key)) = [] := by
      rw [List.filter_eq_nil_iff]
      intro entry member same
      exact undeclared (List.mem_map.mpr ⟨entry, member, of_decide_eq_true same⟩)
    rw [OrderedMap.get?_mapValues, OrderedMap.get?_ofList, split]
    simp [passed]

theorem Blank.folds (blank : Blank φ) (calls : List Link) (network : Network φ) :
    Folds network.targetName calls blank.isChoice (network.routing (blank.links calls)) := by
  cases kind : blank.isChoice with
  | true =>
    rw [links_of_choice kind]
    exact .choice _ (collects_ofList _ _)
  | false =>
    rw [links_of_activity kind, Network.routing, OrderedMap.isEmpty_ofList]
    refine .activity _ _ ?_ ?_ ?_ ?_
    · intro unlinked
      rw [unlinked]
      rfl
    · intro before target split
      rw [split, List.getLast?_concat]
      rfl
    · cases calls.filterMap Link.caught? <;> simp
    · intro map declared
      cases caught : calls.filterMap Link.caught? with
      | nil => simp [caught] at declared
      | cons entry rest =>
        rw [caught] at declared
        cases declared
        exact collects_ofList _ _

section Acts

variable {position size : Nat}

theorem created_concat (acts : List (Act φ)) (act : Act φ) :
    created (acts ++ [act]) = created acts ++ act.blank?.toList := by
  cases act <;> simp [created, Act.blank?, List.filterMap_cons]

theorem callsOn_concat (acts : List (Act φ)) (act : Act φ) :
    callsOn position (acts ++ [act]) = callsOn position acts ++ (act.link? position).toList := by
  cases named : act.link? position <;> simp [callsOn, named]

theorem performable_concat (acts : List (Act φ)) (act : Act φ) :
    Performable size (acts ++ [act]) ↔
      Performable size acts ∧ Performable (size + (created acts).length) [act] := by
  induction acts generalizing size with
  | nil => simp [Performable, created]
  | cons first rest ih =>
    cases first with
    | create blank =>
      have grown : size + (created (.create blank :: rest)).length =
          size + 1 + (created rest).length := by
        simp only [created, List.filterMap_cons, Act.blank?, List.length_cons]
        omega
      rw [List.cons_append, Performable, Performable, ih, grown]
    | call callee link =>
      have same : created (.call callee link :: rest) = created rest := rfl
      rw [List.cons_append, Performable, Performable, ih, same]
      exact and_assoc.symm

theorem callsOn_of_absent {acts : List (Act φ)} (performable : Performable size acts)
    (absent : size + (created acts).length ≤ position) : callsOn position acts = [] := by
  induction acts generalizing size with
  | nil => rfl
  | cons first rest ih =>
    cases first with
    | create blank =>
      have later : callsOn position rest = [] := by
        apply ih performable
        simp only [created, List.filterMap_cons, Act.blank?, List.length_cons] at absent ⊢
        omega
      exact later
    | call callee link =>
      obtain ⟨⟨inside, _⟩, after⟩ := performable
      have before : size ≤ position := Nat.le_trans (Nat.le_add_right _ _) absent
      have other : callee ≠ position := Nat.ne_of_lt (Nat.lt_of_lt_of_le inside before)
      have passed : callsOn position (.call callee link :: rest) = callsOn position rest := by
        simp [callsOn, Act.link?, other]
      rw [passed]
      exact ih after absent

end Acts

namespace Network

variable {network : Network φ} {position : Nat}

def perform (network : Network φ) : Act φ → Network φ
  | .create blank => network.add blank.name blank.step blank.start blank.isChoice
  | .call position link => network.connect position link

def build (acts : List (Act φ)) : Network φ := acts.foldl perform empty

def definition? (network : Network φ) (position : Nat) : Option (Task φ) :=
  (network.builder? position).map network.definition

theorem builders_create (network : Network φ) (blank : Blank φ) :
    (network.perform (.create blank)).builders = network.builders ++ [blank.after []] := rfl

theorem builder?_create (inside : position < network.size) (blank : Blank φ) :
    (network.perform (.create blank)).builder? position = network.builder? position := by
  rw [builder?, builders_create, List.getElem?_append_left inside, ← builder?]

theorem builders_call {link : Link} (inside : ∀ target ∈ link.target, target < network.size) :
    (network.perform (.call position link)).builders =
      network.builders.modify position fun builder =>
        { builder with links := builder.links.add link } := by
  have within : ∀ target ∈ link.target, target < network.builders.length := inside
  simp only [perform, connect, dif_pos within]

/-- Every builder of a network is what the calls on it have made of the one that was created. -/
theorem builders_build {acts : List (Act φ)} (performable : Performable 0 acts) :
    (build acts).builders =
      (created acts).mapIdx fun position blank => blank.after (callsOn position acts) := by
  induction acts using List.reverseRecOn with
  | nil => rfl
  | append_singleton acts act ih =>
    obtain ⟨earlier, last⟩ := (performable_concat acts act).mp performable
    have built := ih earlier
    have size : (build acts).size = (created acts).length := by
      rw [Network.size, built, List.length_mapIdx]
    rw [build, List.foldl_append, List.foldl_cons, List.foldl_nil, ← build]
    cases act with
    | create blank =>
      have uncalled : callsOn (created acts).length acts = [] :=
        callsOn_of_absent earlier (Nat.le_of_eq (Nat.zero_add _))
      rw [builders_create, built, created_concat]
      simp [Act.blank?, callsOn_concat, Act.link?, List.mapIdx_append, uncalled]
    | call callee link =>
      obtain ⟨⟨_, leads⟩, _⟩ := last
      rw [Nat.zero_add, ← size] at leads
      rw [builders_call leads, built, created_concat]
      apply List.ext_getElem?
      intro position
      by_cases called : callee = position
      · simp [called, Act.blank?, callsOn_concat, Act.link?, Blank.after, Blank.links_concat,
          Function.comp_def]
      · simp [called, Act.blank?, callsOn_concat, Act.link?]

theorem builder?_build {acts : List (Act φ)} (performable : Performable 0 acts) (position : Nat) :
    (build acts).builder? position =
      (created acts)[position]?.map fun blank => blank.after (callsOn position acts) := by
  rw [builder?, builders_build performable, List.getElem?_mapIdx]

theorem targetName_build {acts : List (Act φ)} (performable : Performable 0 acts) :
    (build acts).targetName = nameAmong (created acts) := by
  funext target
  cases target with
  | none => rfl
  | some position =>
    simp [targetName, nameAmong, builder?_build performable, Blank.after, Function.comp_def]

theorem build_eq_of_calls {acts others : List (Act φ)} (performable : Performable 0 acts)
    (also : Performable 0 others) (same : created acts = created others)
    (calls : ∀ position, callsOn position acts = callsOn position others) :
    build acts = build others := by
  have builders : (build acts).builders = (build others).builders := by
    rw [builders_build performable, builders_build also, same]
    simp only [calls]
  cases made : build acts
  cases again : build others
  rw [made, again] at builders
  cases builders
  rfl

theorem name_perform (act : Act φ) (inside : position < network.size) :
    ((network.perform act).builder? position).map (·.name) =
      (network.builder? position).map (·.name) := by
  cases act with
  | create blank => rw [builder?_create inside]
  | call callee link =>
    rw [perform, connect]
    split
    · by_cases called : callee = position <;> simp [builder?, called, Function.comp_def]
    · rfl

theorem builder?_perform {act : Act φ} (elsewhere : act.callee? ≠ some position)
    (inside : position < network.size) :
    (network.perform act).builder? position = network.builder? position := by
  cases act with
  | create blank => exact builder?_create inside blank
  | call callee link =>
    have other : callee ≠ position := fun same => elsewhere (congrArg some same)
    rw [perform, connect]
    split
    · simp [builder?, other]
    · rfl

/-- A definition knows no more of a network than the names of the builders that are linked to. -/
theorem routing_congr {left right : Network φ} {links : Links}
    (same : ∀ next ∈ links.successors, left.targetName (some next) = right.targetName (some next)) :
    left.routing links = right.routing links := by
  have alike : ∀ target : Option Nat, (∀ next ∈ target, next ∈ links.successors) →
      left.targetName target = right.targetName target := by
    intro target follows
    cases target with
    | none => rfl
    | some next => exact same next (follows next rfl)
  cases links with
  | activity next catches =>
    have caught := OrderedMap.mapValues_congr catches fun target member =>
      alike target fun next held => List.mem_append_right _
        (List.mem_filterMap.mpr ⟨target, member, held⟩)
    have first := alike next fun follows held => List.mem_append_left _ (Option.mem_toList.mpr held)
    rw [routing, routing, first, caught]
  | choice branches =>
    have branched := OrderedMap.mapValues_congr branches fun target member =>
      alike target fun next held => List.mem_filterMap.mpr ⟨target, member, held⟩
    rw [routing, routing, branched]

/-- The builders that are linked to are there already, and keep their names. -/
theorem definition?_perform {act : Act φ} (elsewhere : act.callee? ≠ some position)
    {task : Task φ} (held : network.definition? position = some task) :
    (network.perform act).definition? position = some task := by
  obtain ⟨builder, found, rfl⟩ := Option.map_eq_some_iff.mp held
  have inside : position < network.size := (List.getElem?_eq_some_iff.mp found).1
  have member : builder ∈ network.builders := List.mem_of_getElem? found
  have routed : (network.perform act).routing builder.links = network.routing builder.links :=
    routing_congr fun next linked => name_perform act (network.closed builder member next linked)
  rw [definition?, builder?_perform elsewhere inside, found, Option.map_some, definition, routed]
  rfl

end Network

/-- The calls on a builder make its definition, whatever else is done to its network in between.
An activity leads on to where its last call for success goes, and has an entry for each pattern, in
the order in which they were first declared and each to where it was last declared to go; without
any it has no entries at all. A choice has a branch for each key in the same way. No act changes the
definition of a builder that it is not a call on. So acts that create the same builders and make
the same calls on each, in whatever order between them, lead to the same graphs. -/
theorem builder_calls_fold_into_definitions :
    (∀ acts : List (Act φ), Performable 0 acts →
      (Network.build acts).size = (created acts).length ∧
      ∀ position blank, (created acts)[position]? = some blank →
        ∃ task, (Network.build acts).definition? position = some task ∧
          task.name = blank.name ∧ task.step = blank.step ∧ task.start = blank.start ∧
          Folds (nameAmong (created acts)) (callsOn position acts) blank.isChoice task.routing) ∧
    (∀ (network : Network φ) (act : Act φ) (position : Nat) (task : Task φ),
      network.definition? position = some task → act.callee? ≠ some position →
      (network.perform act).definition? position = some task) ∧
    ∀ acts others : List (Act φ), Performable 0 acts → Performable 0 others →
      created acts = created others →
      (∀ position, callsOn position acts = callsOn position others) →
      ∀ root, (Network.build acts).graph root = (Network.build others).graph root := by
  refine ⟨?_, ?_, ?_⟩
  · intro acts performable
    refine ⟨?_, ?_⟩
    · rw [Network.size, Network.builders_build performable, List.length_mapIdx]
    · intro position blank made
      have built := Network.builder?_build performable position
      rw [made, Option.map_some] at built
      refine ⟨(Network.build acts).definition (blank.after (callsOn position acts)), ?_,
        rfl, rfl, rfl, ?_⟩
      · rw [Network.definition?, built, Option.map_some]
      · rw [← Network.targetName_build performable]
        exact blank.folds _ _
  · intro network act position task held elsewhere
    exact Network.definition?_perform elsewhere held
  · intro acts others performable also same calls root
    rw [Network.build_eq_of_calls performable also same calls]

/-- The workflow as it is built, with a successor and an entry that are replaced later. -/
def Retry.acts : List (Act Step) :=
  [.create ⟨"fetch", fetch.step, true, false⟩, .create ⟨"recover", recover.step, false, false⟩,
    .call 0 (.next (some 1)), .call 0 (.caught "*Timeout*" none),
    .create ⟨"check", check.step, false, true⟩, .call 2 (.branch "lost" (some 1)),
    .call 0 (.caught "*" none), .call 1 (.next (some 0)), .call 0 (.next (some 2)),
    .call 2 (.branch "found" none), .call 0 (.caught "*Timeout*" (some 1))]

def Retry.actsInTurn : List (Act Step) :=
  [.create ⟨"fetch", fetch.step, true, false⟩, .create ⟨"recover", recover.step, false, false⟩,
    .create ⟨"check", check.step, false, true⟩, .call 2 (.branch "lost" (some 1)),
    .call 2 (.branch "found" none), .call 1 (.next (some 0)), .call 0 (.next (some 1)),
    .call 0 (.caught "*Timeout*" none), .call 0 (.caught "*" none), .call 0 (.next (some 2)),
    .call 0 (.caught "*Timeout*" (some 1))]

theorem retry_builder_calls_fold :
    Performable 0 Retry.acts ∧ Performable 0 Retry.actsInTurn ∧
      (∃ task next catches, (Network.build Retry.acts).definition? 0 = some task ∧
        task.routing = .activity next (some catches) ∧ next = some "check" ∧
        catches.keys = ["*Timeout*", "*"] ∧ catches.get? "*Timeout*" = some (some "recover")) ∧
      (∃ task, (Network.build Retry.acts).definition? 1 = some task ∧
        ((Network.build Retry.acts).perform (.call 0 (.next none))).definition? 1 = some task) ∧
      (Network.build Retry.acts).graph 0 = (Network.build Retry.actsInTurn).graph 0 := by
  obtain ⟨folds, frames, commutes⟩ := builder_calls_fold_into_definitions (φ := Step)
  have performable : Performable 0 Retry.acts := by simp [Retry.acts, Performable, Link.target]
  have also : Performable 0 Retry.actsInTurn := by
    simp [Retry.actsInTurn, Performable, Link.target]
  have calls : ∀ position, callsOn position Retry.acts = callsOn position Retry.actsInTurn := by
    intro position
    match position with
    | 0 | 1 | 2 | _ + 3 => rfl
  obtain ⟨_, defined⟩ := folds Retry.acts performable
  obtain ⟨fetching, held, _, _, _, routed⟩ := defined 0 _ rfl
  obtain ⟨recovering, found, _⟩ := defined 1 _ rfl
  refine ⟨performable, also, ?_, ⟨recovering, found, frames _ _ 1 _ found (by decide)⟩,
    commutes _ _ performable also rfl calls 0⟩
  cases shape : fetching.routing with
  | choice branches =>
    rw [shape] at routed
    cases routed
  | activity next catches =>
    rw [shape] at routed
    obtain ⟨_, _, _, last, uncaught, caught⟩ := routed
    cases catches with
    | none => cases uncaught.mp rfl
    | some map =>
      obtain ⟨keys, latest⟩ := caught map rfl
      exact ⟨fetching, next, map, held, shape, last [some 1] (some 2) rfl, keys.trans (by decide),
        latest [("*Timeout*", none), ("*", none)] "*Timeout*" (some 1) [] rfl (by decide)⟩

end Flowtrace
