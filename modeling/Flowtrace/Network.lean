import Flowtrace.Graph
import Flowtrace.Graph.Walk

/-! Networks of builders. Builders link to one another by position, in any order and in cycles,
and are flattened into a task graph from any one of them. Every link of a network leads to a
builder of the network. -/

namespace Flowtrace

/-- Where a builder leads. No position stands for the end of the workflow. -/
inductive Links where
  | activity (next : Option Nat) (catches : OrderedMap String (Option Nat))
  | choice (branches : OrderedMap String (Option Nat))
deriving DecidableEq

structure Builder (φ : Type) where
  name : String
  step : φ
  start : Bool
  links : Links

inductive Link where
  | next (target : Option Nat)
  | caught (pattern : String) (target : Option Nat)
  | branch (key : String) (target : Option Nat)
deriving DecidableEq

def Link.target : Link → Option Nat
  | .next target | .caught _ target | .branch _ target => target

namespace Links

/-- The builders that links lead to, in the order in which flattening visits them. -/
def successors : Links → List Nat
  | .activity next catches => next.toList ++ catches.values.filterMap id
  | .choice branches => branches.values.filterMap id

/-- A link that a kind of builder does not have changes nothing. -/
def add (links : Links) : Link → Links
  | .next target =>
    match links with
    | .activity _ catches => .activity target catches
    | .choice _ => links
  | .caught pattern target =>
    match links with
    | .activity next catches => .activity next (catches.insert pattern target)
    | .choice _ => links
  | .branch key target =>
    match links with
    | .activity .. => links
    | .choice branches => .choice (branches.insert key target)

end Links

namespace OrderedMap

variable {κ : Type} {α : Type} [DecidableEq κ]

theorem mem_values_insert {map : OrderedMap κ α} {key : κ} {value other : α}
    (member : other ∈ (map.insert key value).values) : other ∈ map.values ∨ other = value := by
  have general : ∀ entries : List (κ × α),
      other ∈ (Entries.put (fun held wanted => decide (held = wanted)) key value entries).map
          Prod.snd →
        other ∈ entries.map Prod.snd ∨ other = value := by
    intro entries
    induction entries with
    | nil => simp [Entries.put]
    | cons entry rest ih =>
      simp only [Entries.put]
      split
      · simp only [List.map_cons, List.mem_cons]
        rintro (same | later)
        · exact .inr same
        · exact .inl (.inr later)
      · simp only [List.map_cons, List.mem_cons]
        rintro (same | later)
        · exact .inl (.inl same)
        · exact (ih later).imp .inr id
  exact general map.entries member

end OrderedMap

theorem Links.mem_successors_add {links : Links} {link : Link} {target : Nat}
    (member : target ∈ (links.add link).successors) :
    target ∈ links.successors ∨ link.target = some target := by
  have inserted : ∀ {map : OrderedMap String (Option Nat)} {key : String} {value : Option Nat},
      target ∈ (map.insert key value).values.filterMap id →
        target ∈ map.values.filterMap id ∨ value = some target := by
    intro map key value found
    obtain ⟨other, present, same⟩ := List.mem_filterMap.1 found
    obtain rfl : other = some target := same
    rcases OrderedMap.mem_values_insert present with old | new
    · exact .inl (List.mem_filterMap.2 ⟨some target, old, rfl⟩)
    · exact .inr new.symm
  cases links with
  | activity next catches =>
    cases link with
    | next other =>
      simp only [Links.add, Links.successors, List.mem_append, Option.mem_toList] at member ⊢
      exact member.elim .inr fun caught => .inl (.inr caught)
    | caught pattern other =>
      simp only [Links.add, Links.successors, List.mem_append] at member ⊢
      rcases member with first | caught
      · exact .inl (.inl first)
      · exact (inserted caught).imp .inr id
    | branch => exact .inl member
  | choice branches =>
    cases link with
    | next | caught => exact .inl member
    | branch key other => exact inserted member

structure Network (φ : Type) where
  builders : List (Builder φ)
  closed : ∀ builder ∈ builders, ∀ target ∈ builder.links.successors, target < builders.length

namespace Network

variable {φ : Type}

def empty : Network φ := ⟨[], by simp⟩

instance : Inhabited (Network φ) := ⟨empty⟩

def size (network : Network φ) : Nat := network.builders.length

def builder? (network : Network φ) (position : Nat) : Option (Builder φ) :=
  network.builders[position]?

/-- A builder without links can be added to every network. -/
def add (network : Network φ) (name : String) (step : φ) (start isChoice : Bool) : Network φ where
  builders := network.builders ++
    [⟨name, step, start, if isChoice then .choice .empty else .activity none .empty⟩]
  closed := by
    intro builder member target linked
    rw [List.length_append]
    rcases List.mem_append.1 member with old | new
    · have inside := network.closed builder old target linked
      omega
    · obtain rfl := List.mem_singleton.1 new
      cases isChoice <;> simp [Links.successors, OrderedMap.values, OrderedMap.empty] at linked

/-- A link to a position that is not in the network is not made. -/
def connect (network : Network φ) (position : Nat) (link : Link) : Network φ :=
  if inside : ∀ target ∈ link.target, target < network.builders.length then
    { builders := network.builders.modify position fun builder =>
        { builder with links := builder.links.add link }
      closed := by
        intro builder member target linked
        rw [List.length_modify]
        obtain ⟨index, bound, same⟩ := List.mem_iff_getElem.1 member
        rw [List.getElem_modify] at same
        have within : index < network.builders.length := by simpa using bound
        have old : network.builders[index] ∈ network.builders := List.getElem_mem within
        split at same
        · subst same
          rcases Links.mem_successors_add linked with kept | made
          · exact network.closed _ old target kept
          · exact inside target made
        · subst same
          exact network.closed _ old target linked }
  else network

def successors (network : Network φ) (position : Nat) : List Nat :=
  ((network.builder? position).map fun builder => builder.links.successors).getD []

def targetName (network : Network φ) (target : Option Nat) : Pointer :=
  target.bind fun position => (network.builder? position).map (·.name)

/-- An activity without catch entries declares no catch mapping at all. -/
def routing (network : Network φ) : Links → Routing
  | .activity next catches =>
    .activity (network.targetName next)
      (if catches.isEmpty then none else some (catches.mapValues network.targetName))
  | .choice branches => .choice (branches.mapValues network.targetName)

def definition (network : Network φ) (builder : Builder φ) : Task φ :=
  ⟨builder.name, builder.step, network.routing builder.links, builder.start⟩

/-- The builders that can be reached from one of them, each once: the builder itself, then all
that its first successor leads to, and so on. -/
def reach (network : Network φ) (root : Nat) : List Nat :=
  Walk.order (List.range network.size) network.successors root

def graph (network : Network φ) (root : Nat) : TaskGraph φ :=
  .ofList ((network.reach root).filterMap fun position =>
    (network.builder? position).map network.definition)

end Network

def Builder.isChoice {φ : Type} (builder : Builder φ) : Bool :=
  match builder.links with
  | .activity .. => false
  | .choice _ => true

def Builder.text {φ : Type} (builder : Builder φ) : String :=
  (if builder.isChoice then "Choice(" else "Activity(") ++ Text.quoted builder.name ++ ")"

end Flowtrace
