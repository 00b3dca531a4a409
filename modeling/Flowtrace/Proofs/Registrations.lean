import Mathlib.Data.List.Induction
import Mathlib.Data.List.Nodup
import Mathlib.Data.Option.Basic
import Flowtrace.Proofs.Journey
import Flowtrace.Workbench

/-! Registries over time. A workflow is registered under the name that it has at that moment, and
the registry keeps to that name. So what a name stands for, and where it is listed, is decided by
the registrations and removals under it, read off the commands so far. -/

namespace Flowtrace

variable {φ : Type}

namespace OrderedMap

variable {κ α : Type} [DecidableEq κ]

theorem map_get?_keys (map : OrderedMap κ α) : map.keys.map map.get? = map.values.map some := by
  simp only [keys, values, List.map_map]
  apply List.map_congr_left
  intro entry member
  exact (map.get?_eq_some_iff entry.1 entry.2).mpr member

omit [DecidableEq κ] in
theorem eq_of_entries {left right : OrderedMap κ α} (same : left.entries = right.entries) :
    left = right := by
  cases left
  cases right
  cases same
  rfl

theorem erase_of_absent {map : OrderedMap κ α} {key : κ} (absent : map.contains key = false) :
    map.erase key = map := by
  apply eq_of_entries
  rw [entries_erase, List.filter_eq_self]
  intro entry member
  have differs : entry.1 ≠ key := by
    rintro rfl
    have known := (map.mem_keys_iff entry.1).mp (List.mem_map.mpr ⟨entry, member, rfl⟩)
    rw [known] at absent
    cases absent
  simp [differs]

end OrderedMap

namespace Registry

variable {ω : Type}

theorem has_eq (registry : Registry ω) (name : String) :
    registry.has name = (registry.get? name).isSome := rfl

theorem has_eq_true_iff (registry : Registry ω) (name : String) :
    registry.has name = true ↔ ∃ workflow, registry.get? name = some workflow :=
  Option.isSome_iff_exists

theorem find_eq_ok_iff (registry : Registry ω) (name : String) (workflow : ω) :
    registry.find name = .ok workflow ↔ registry.get? name = some workflow := by
  unfold find
  split <;> simp [*]

theorem find_eq_error_iff (registry : Registry ω) (name : String) :
    registry.find name = .error (.workflowNotFound name) ↔ registry.has name = false := by
  unfold find
  split <;> simp [has_eq, *]

end Registry

namespace Workbench

def name? (bench : Workbench φ) (id : String) : Option String :=
  (bench.plans.get? id).map (·.name)

/-- A command that decides what a name stands for. -/
def Touches (bench : Workbench φ) (command : Command φ) (name : String) : Prop :=
  command = .unregister name ∨ ∃ id, command = .register id ∧ bench.name? id = some name

section Frame

variable {bench : Workbench φ}

theorem atBuilder_registry {id : String} {answer : Nat → Builder φ → Workbench φ × Reply φ}
    (kept : ∀ position builder, (answer position builder).1.registry = bench.registry) :
    (bench.atBuilder id answer).1.registry = bench.registry := by
  unfold atBuilder
  split
  · exact kept _ _
  · rfl

theorem atWorkflow_registry {id : String} {answer : Workflow φ → Workbench φ × Reply φ}
    (kept : ∀ workflow, (answer workflow).1.registry = bench.registry) :
    (bench.atWorkflow id answer).1.registry = bench.registry := by
  unfold atWorkflow
  split
  · exact kept _
  · rfl

theorem link_registry (id : String) (target : Option String) (make : Option Nat → Link)
    (reply : Option String) : (bench.link id target make reply).1.registry = bench.registry := by
  apply atBuilder_registry
  intro position builder
  split
  · rfl
  · split <;> rfl

theorem run_registry (engine : Engine φ) (turns : Nat) (id : String) (input : Value)
    (context : Context) : (bench.run engine turns id input context).1.registry = bench.registry := by
  apply atWorkflow_registry
  intro workflow
  split <;> rfl

end Frame

variable [BEq φ]

theorem perform_cases (engine : Engine φ) (turns : Nat) (bench : Workbench φ)
    (command : Command φ) :
    (∃ id name, command = .register id ∧ bench.name? id = some name ∧
      (bench.perform engine turns command).1 =
        { bench with registry := bench.registry.register name id }) ∨
    (∃ name, command = .unregister name ∧
      (bench.perform engine turns command).1 =
        { bench with registry := bench.registry.unregister name }) ∨
    ((∀ name, ¬ bench.Touches command name) ∧
      (bench.perform engine turns command).1.registry = bench.registry) := by
  cases command with
  | register id =>
    cases planned : bench.plans.get? id with
    | none =>
      refine .inr (.inr ⟨?_, ?_⟩)
      · intro name touches
        simp [Touches, name?, planned] at touches
      · simp [perform, atWorkflow, workflow?, planned]
    | some plan =>
      refine .inl ⟨id, plan.name, rfl, ?_, ?_⟩
      · simp [name?, planned]
      · simp [perform, atWorkflow, workflow?, planned]
  | unregister name => exact .inr (.inl ⟨name, rfl, rfl⟩)
  | addActivity | addChoice | «recall» | compare | get | list | has =>
    exact .inr (.inr ⟨by simp [Touches], rfl⟩)
  | linkNext | linkCaught | linkBranch =>
    exact .inr (.inr ⟨by simp [Touches], link_registry _ _ _ _⟩)
  | run => exact .inr (.inr ⟨by simp [Touches], run_registry _ _ _ _ _⟩)
  | inspect | addWorkflow =>
    exact .inr (.inr ⟨by simp [Touches], atBuilder_registry fun _ _ => rfl⟩)
  | graph id slot =>
    refine .inr (.inr ⟨by simp [Touches], atBuilder_registry fun _ _ => ?_⟩)
    cases slot <;> rfl
  | rename | render | detail =>
    exact .inr (.inr ⟨by simp [Touches], atWorkflow_registry fun _ => rfl⟩)

/-- What a name stands for after a command: the workflow just registered under it, nothing if the
name was removed, and otherwise what it stood for before. -/
theorem get?_perform (engine : Engine φ) (turns : Nat) (bench : Workbench φ)
    (command : Command φ) (name : String) :
    (∃ id, command = .register id ∧ bench.name? id = some name ∧
      (bench.perform engine turns command).1.registry.get? name = some id ∧
      (bench.perform engine turns command).1.name? id = some name) ∨
    (command = .unregister name ∧
      (bench.perform engine turns command).1.registry.get? name = none) ∨
    (¬ bench.Touches command name ∧
      (bench.perform engine turns command).1.registry.get? name = bench.registry.get? name) := by
  rcases bench.perform_cases engine turns command with
    ⟨id, own, rfl, called, performed⟩ | ⟨removed, rfl, performed⟩ | ⟨untouched, same⟩
  · rw [performed]
    have inserted := bench.registry.held.get?_insert own name id
    by_cases same : own = name
    · subst own
      rw [if_pos rfl] at inserted
      exact .inl ⟨id, rfl, called, inserted, called⟩
    · rw [if_neg same] at inserted
      refine .inr (.inr ⟨?_, inserted⟩)
      simp [Touches, called, same]
  · rw [performed]
    have erased := bench.registry.held.get?_erase removed name
    by_cases same : removed = name
    · subst removed
      rw [if_pos rfl] at erased
      exact .inr (.inl ⟨rfl, erased⟩)
    · rw [if_neg same] at erased
      refine .inr (.inr ⟨?_, erased⟩)
      simp [Touches, same]
  · rw [same]
    exact .inr (.inr ⟨untouched name, rfl⟩)

def session (engine : Engine φ) (turns : Nat) (commands : List (Command φ)) : Workbench φ :=
  commands.foldl (fun bench command => (bench.perform engine turns command).1) .empty

end Workbench

variable [BEq φ]

section Histories

open Workbench

variable (engine : Engine φ) (turns : Nat)

/-- A workflow was registered at a position when it had the name, and no workflow has been
registered or removed under that name since. -/
structure HeldSince (commands : List (Command φ)) (name id : String) (position : Nat) : Prop where
  registered : commands[position]? = some (.register id)
  called : (session engine turns (commands.take position)).name? id = some name
  untouched : ∀ later command, position < later → commands[later]? = some command →
    ¬ (session engine turns (commands.take later)).Touches command name

/-- A name was registered at a position where it was absent, and it has not been absent since. -/
structure EnteredAt (commands : List (Command φ)) (name : String) (position : Nat) : Prop where
  registered : ∃ id, commands[position]? = some (.register id) ∧
    (session engine turns (commands.take position)).name? id = some name
  absent : (session engine turns (commands.take position)).registry.has name = false
  present : ∀ later, position < later → later ≤ commands.length →
    (session engine turns (commands.take later)).registry.has name = true

structure EnteredInOrder (commands : List (Command φ)) (names : List String) : Prop where
  entered : ∀ name ∈ names, ∃ position, EnteredAt engine turns commands name position
  ordered : names.Pairwise fun first second => ∃ early late,
    EnteredAt engine turns commands first early ∧
    EnteredAt engine turns commands second late ∧ early < late

structure Listing (commands : List (Command φ)) (names : List String) : Prop where
  once : names.Nodup
  registered : ∀ name, name ∈ names ↔ (session engine turns commands).registry.has name = true
  listed : (session engine turns commands).registry.list.map some =
    names.map (session engine turns commands).registry.get?
  order : EnteredInOrder engine turns commands names

def NamesKept (commands : List (Command φ)) : Prop :=
  ∀ position command, commands[position]? = some command →
    ∀ id ∈ (session engine turns (commands.take position)).registry.list,
      (session engine turns (commands.take (position + 1))).name? id =
        (session engine turns (commands.take position)).name? id

end Histories

section Session

open Workbench

variable {engine : Engine φ} {turns : Nat} {commands : List (Command φ)} {command : Command φ}
  {name id : String} {position : Nat}

theorem session_concat (commands : List (Command φ)) (command : Command φ) :
    session engine turns (commands ++ [command]) =
      ((session engine turns commands).perform engine turns command).1 := by
  simp [session]

theorem take_concat_of_getElem? {α : Type} {items : List α} {item other : α}
    (found : items[position]? = some other) :
    (items ++ [item]).take position = items.take position :=
  List.take_append_of_le_length (Nat.le_of_lt (List.getElem?_eq_some_iff.mp found).1)

theorem getElem?_concat_of_getElem? {α : Type} {items : List α} {item other : α}
    (found : items[position]? = some other) : (items ++ [item])[position]? = some other :=
  getElem?_of_prefix (List.prefix_append items [item]) found

theorem heldSince_concat_iff :
    HeldSince engine turns (commands ++ [command]) name id position ↔
      (position = commands.length ∧ command = .register id ∧
        (session engine turns commands).name? id = some name) ∨
      (HeldSince engine turns commands name id position ∧
        ¬ (session engine turns commands).Touches command name) := by
  constructor
  · rintro ⟨registered, called, untouched⟩
    rcases getElem?_concat_cases registered with earlier | ⟨rfl, registers⟩
    · have inside := (List.getElem?_eq_some_iff.mp earlier).1
      rw [take_concat_of_getElem? earlier] at called
      refine .inr ⟨⟨earlier, called, ?_⟩, ?_⟩
      · intro later other after found
        have still := untouched later other after (getElem?_concat_of_getElem? found)
        rwa [take_concat_of_getElem? found] at still
      · have last := untouched commands.length command inside (by simp)
        rwa [List.take_left] at last
    · rw [List.take_left] at called
      exact .inl ⟨rfl, registers.symm, called⟩
  · rintro (⟨rfl, rfl, called⟩ | ⟨⟨registered, called, untouched⟩, last⟩)
    · refine ⟨by simp, by rwa [List.take_left], ?_⟩
      intro later other after found
      -- Nothing comes after the last command.
      have bound := (List.getElem?_eq_some_iff.mp found).1
      rw [List.length_append, List.length_singleton] at bound
      omega
    · refine ⟨getElem?_concat_of_getElem? registered, ?_, ?_⟩
      · rwa [take_concat_of_getElem? registered]
      · intro later other after found
        rcases getElem?_concat_cases found with earlier | ⟨rfl, rfl⟩
        · rw [take_concat_of_getElem? earlier]
          exact untouched later other after earlier
        · rwa [List.take_left]

/-- A name stands for the workflow that was registered under it last. -/
theorem get?_session_iff (engine : Engine φ) (turns : Nat) (commands : List (Command φ))
    (name id : String) :
    (session engine turns commands).registry.get? name = some id ↔
      ∃ position, HeldSince engine turns commands name id position := by
  induction commands using List.reverseRecOn with
  | nil =>
    constructor
    · rintro ⟨⟩
    · rintro ⟨position, registered, _⟩
      cases registered
  | append_singleton commands command ih =>
    simp only [heldSince_concat_iff, session_concat]
    rcases (session engine turns commands).get?_perform engine turns command name with
      ⟨own, rfl, called, registered, _⟩ | ⟨rfl, removed⟩ | ⟨untouched, same⟩
    · have touches : (session engine turns commands).Touches (.register own) name :=
        .inr ⟨own, rfl, called⟩
      rw [registered]
      constructor
      · rintro ⟨⟩
        exact ⟨commands.length, .inl ⟨rfl, rfl, called⟩⟩
      · rintro ⟨position, ⟨_, ⟨⟩, _⟩ | ⟨_, untouched⟩⟩
        · rfl
        · exact absurd touches untouched
    · rw [removed]
      constructor
      · rintro ⟨⟩
      · rintro ⟨position, ⟨_, ⟨⟩, _⟩ | ⟨_, untouched⟩⟩
        exact absurd (.inl rfl) untouched
    · rw [same, ih]
      constructor
      · rintro ⟨position, held⟩
        exact ⟨position, .inr ⟨held, untouched⟩⟩
      · rintro ⟨position, ⟨_, registers, called⟩ | ⟨held, _⟩⟩
        · exact absurd (.inr ⟨id, registers, called⟩) untouched
        · exact ⟨position, held⟩

theorem has_session_iff (engine : Engine φ) (turns : Nat) (commands : List (Command φ))
    (name : String) :
    (session engine turns commands).registry.has name = true ↔
      ∃ id position, HeldSince engine turns commands name id position := by
  rw [Registry.has_eq_true_iff]
  exact exists_congr fun id => get?_session_iff engine turns commands name id

theorem EnteredAt.lt (entered : EnteredAt engine turns commands name position) :
    position < commands.length := by
  obtain ⟨id, registered, _⟩ := entered.registered
  exact (List.getElem?_eq_some_iff.mp registered).1

theorem EnteredAt.concat (entered : EnteredAt engine turns commands name position)
    (still : (session engine turns (commands ++ [command])).registry.has name = true) :
    EnteredAt engine turns (commands ++ [command]) name position := by
  obtain ⟨⟨id, registered, called⟩, absent, present⟩ := entered
  refine ⟨⟨id, getElem?_concat_of_getElem? registered, ?_⟩, ?_, ?_⟩
  · rwa [take_concat_of_getElem? registered]
  · rwa [take_concat_of_getElem? registered]
  · intro later after bound
    rcases Nat.lt_or_ge commands.length later with last | sooner
    · rwa [List.take_of_length_le (by simpa using Nat.succ_le_of_lt last)]
    · rw [List.take_append_of_le_length sooner]
      exact present later after sooner

theorem enteredAt_length (called : (session engine turns commands).name? id = some name)
    (absent : (session engine turns commands).registry.has name = false)
    (now : (session engine turns (commands ++ [.register id])).registry.has name = true) :
    EnteredAt engine turns (commands ++ [.register id]) name commands.length := by
  refine ⟨⟨id, by simp, by rwa [List.take_left]⟩, by rwa [List.take_left], ?_⟩
  intro later after bound
  rwa [List.take_of_length_le (by simpa using Nat.succ_le_of_lt after)]

/-- Names that stay keep the order in which they were entered. -/
theorem EnteredInOrder.concat {names kept : List String}
    (order : EnteredInOrder engine turns commands names) (sublist : kept.Sublist names)
    (still : ∀ name ∈ kept,
      (session engine turns (commands ++ [command])).registry.has name = true) :
    EnteredInOrder engine turns (commands ++ [command]) kept where
  entered := by
    intro name member
    obtain ⟨position, entered⟩ := order.entered name (sublist.mem member)
    exact ⟨position, entered.concat (still name member)⟩
  ordered := by
    refine (order.ordered.sublist sublist).imp_of_mem ?_
    rintro first second held also ⟨early, late, before, after, sooner⟩
    exact ⟨early, late, before.concat (still first held), after.concat (still second also), sooner⟩

theorem EnteredInOrder.append {names : List String}
    (order : EnteredInOrder engine turns (commands ++ [command]) names)
    (earlier : ∀ name ∈ names, ∃ position < commands.length,
      EnteredAt engine turns (commands ++ [command]) name position)
    (last : EnteredAt engine turns (commands ++ [command]) name commands.length) :
    EnteredInOrder engine turns (commands ++ [command]) (names ++ [name]) where
  entered := by
    intro other member
    rcases List.mem_append.mp member with before | newest
    · exact order.entered other before
    · obtain rfl := List.mem_singleton.mp newest
      exact ⟨_, last⟩
  ordered := by
    refine List.pairwise_append.mpr ⟨order.ordered, List.pairwise_singleton _ _, ?_⟩
    intro first held second newest
    obtain rfl := List.mem_singleton.mp newest
    obtain ⟨early, sooner, entered⟩ := earlier first held
    exact ⟨early, _, entered, last, sooner⟩

theorem mem_keys_session_iff (engine : Engine φ) (turns : Nat) (commands : List (Command φ))
    (name : String) :
    name ∈ (session engine turns commands).registry.held.keys ↔
      (session engine turns commands).registry.has name = true :=
  (session engine turns commands).registry.held.mem_keys_iff name

/-- A registration under a new name goes to the end, a removal closes the gap, and every other
command leaves the order as it is. -/
theorem enteredInOrder_session (engine : Engine φ) (turns : Nat) (commands : List (Command φ)) :
    EnteredInOrder engine turns commands (session engine turns commands).registry.held.keys := by
  induction commands using List.reverseRecOn with
  | nil => exact ⟨by rintro name ⟨⟩, .nil⟩
  | append_singleton commands command order =>
    have still : ∀ name ∈ (session engine turns (commands ++ [command])).registry.held.keys,
        (session engine turns (commands ++ [command])).registry.has name = true := fun name =>
      (mem_keys_session_iff engine turns (commands ++ [command]) name).mp
    rcases (session engine turns commands).perform_cases engine turns command with
      ⟨id, own, rfl, called, performed⟩ | ⟨removed, rfl, performed⟩ | ⟨_, same⟩
    · have keys : (session engine turns (commands ++ [.register id])).registry.held.keys =
          ((session engine turns commands).registry.held.insert own id).keys := by
        rw [session_concat, performed]
        rfl
      rw [OrderedMap.keys_insert] at keys
      rw [keys] at still ⊢
      split at still
      · rename_i known
        rw [if_pos known]
        exact order.concat (.refl _) still
      · rename_i fresh
        rw [if_neg fresh]
        have absent : (session engine turns commands).registry.has own = false := by
          simpa [mem_keys_session_iff] using fresh
        have kept := order.concat (.refl _) fun name member =>
          still name (List.mem_append_left _ member)
        refine kept.append ?_ (enteredAt_length called absent (still own (by simp)))
        intro name member
        obtain ⟨position, entered⟩ := order.entered name member
        exact ⟨position, entered.lt, entered.concat (still name (List.mem_append_left _ member))⟩
    · have keys : (session engine turns (commands ++ [.unregister removed])).registry.held.keys =
          ((session engine turns commands).registry.held.erase removed).keys := by
        rw [session_concat, performed]
        rfl
      rw [keys] at still ⊢
      exact order.concat (OrderedMap.keys_remove_sublist removed _) still
    · have keys : (session engine turns (commands ++ [command])).registry.held.keys =
          (session engine turns commands).registry.held.keys := by
        rw [session_concat, same]
      rw [keys] at still ⊢
      exact order.concat (.refl _) still

theorem listing_session (engine : Engine φ) (turns : Nat) (commands : List (Command φ)) :
    Listing engine turns commands (session engine turns commands).registry.held.keys where
  once := (session engine turns commands).registry.held.distinct
  registered := mem_keys_session_iff engine turns commands
  listed := ((session engine turns commands).registry.held.map_get?_keys).symm
  order := enteredInOrder_session engine turns commands

/-- As long as no registered workflow is renamed, workflows are registered under their names. -/
theorem name?_of_namesKept {commands : List (Command φ)} (kept : NamesKept engine turns commands) :
    ∀ name id, (session engine turns commands).registry.get? name = some id →
      (session engine turns commands).name? id = some name := by
  induction commands using List.reverseRecOn with
  | nil =>
    intro name id held
    cases held
  | append_singleton commands command ih =>
    have before : NamesKept engine turns commands := by
      intro position other found id member
      have inside := (List.getElem?_eq_some_iff.mp found).1
      have same := kept position other (getElem?_concat_of_getElem? found) id
      rw [take_concat_of_getElem? found, List.take_append_of_le_length inside] at same
      exact same member
    intro name id held
    rw [session_concat] at held ⊢
    rcases (session engine turns commands).get?_perform engine turns command name with
      ⟨own, rfl, _, registered, called⟩ | ⟨rfl, removed⟩ | ⟨_, same⟩
    · obtain rfl : own = id := Option.some.inj (registered.symm.trans held)
      exact called
    · rw [removed] at held
      cases held
    · rw [same] at held
      have listed : id ∈ (session engine turns commands).registry.list :=
        List.mem_map.mpr ⟨(name, id), (OrderedMap.get?_eq_some_iff _ name id).mp held, rfl⟩
      have unchanged := kept commands.length command (by simp) id
      rw [List.take_left, List.take_of_length_le (by simp), session_concat] at unchanged
      rw [unchanged listed]
      exact ih before name id held

theorem names_of_namesKept (kept : NamesKept engine turns commands) :
    (session engine turns commands).registry.list.map (session engine turns commands).name? =
      (session engine turns commands).registry.held.keys.map some := by
  simp only [Registry.list, OrderedMap.values, OrderedMap.keys, List.map_map]
  apply List.map_congr_left
  intro entry member
  exact name?_of_namesKept kept entry.1 entry.2 ((OrderedMap.get?_eq_some_iff _ _ _).mpr member)

theorem unregister_of_absent (engine : Engine φ) (turns : Nat) (bench : Workbench φ)
    (absent : bench.registry.has name = false) :
    (bench.perform engine turns (.unregister name)).1 = bench := by
  have removed : bench.registry.unregister name = bench.registry :=
    congrArg Registry.mk (OrderedMap.erase_of_absent absent)
  simp only [perform, removed]

theorem rename_registry (engine : Engine φ) (turns : Nat) (bench : Workbench φ) (id name : String) :
    (bench.perform engine turns (.rename id name)).1.registry = bench.registry :=
  atWorkflow_registry fun _ => rfl

/-- A name stands for the workflow that was registered under it last, until it is removed. The
registry lists one workflow for each name, in the order in which the names were entered. Removing an
unknown name and renaming a workflow change nothing of it, and as long as no registered workflow is
renamed, the listed workflows are those that their own names stand for. -/
theorem registry_follows_registrations (engine : Engine φ) (turns : Nat)
    (commands : List (Command φ)) :
    (∀ name id, (session engine turns commands).registry.find name = .ok id ↔
      ∃ position, HeldSince engine turns commands name id position) ∧
    (∀ name, (session engine turns commands).registry.find name =
        .error (.workflowNotFound name) ↔
      ¬ ∃ id position, HeldSince engine turns commands name id position) ∧
    (∀ name, (session engine turns commands).registry.has name = true ↔
      ∃ id position, HeldSince engine turns commands name id position) ∧
    (∃ names, Listing engine turns commands names) ∧
    (∀ name, (session engine turns commands).registry.has name = false →
      ((session engine turns commands).perform engine turns (.unregister name)).1 =
        session engine turns commands) ∧
    (∀ id name,
      ((session engine turns commands).perform engine turns (.rename id name)).1.registry =
        (session engine turns commands).registry) ∧
    (NamesKept engine turns commands →
      ((session engine turns commands).registry.list.map
        (session engine turns commands).name?).Nodup ∧
      ∀ id ∈ (session engine turns commands).registry.list, ∃ name,
        (session engine turns commands).name? id = some name ∧
        (session engine turns commands).registry.find name = .ok id) := by
  refine ⟨?_, ?_, has_session_iff engine turns commands, ⟨_, listing_session engine turns commands⟩,
    fun name absent => unregister_of_absent engine turns _ absent,
    rename_registry engine turns _, ?_⟩
  · intro name id
    rw [Registry.find_eq_ok_iff, get?_session_iff]
  · intro name
    rw [Registry.find_eq_error_iff, ← has_session_iff, Bool.not_eq_true]
  · intro kept
    constructor
    · rw [names_of_namesKept kept]
      exact List.Nodup.map (Option.some_injective String)
        (session engine turns commands).registry.held.distinct
    · intro id member
      obtain ⟨⟨name, _⟩, held, rfl⟩ := List.mem_map.mp member
      have found := (OrderedMap.get?_eq_some_iff _ name _).mpr held
      exact ⟨name, name?_of_namesKept kept name _ found,
        (Registry.find_eq_ok_iff _ name _).mpr found⟩

end Session

def Retry.idle : Engine Unit :=
  ⟨fun _ => ⟨.direct, fun payload context => ⟨.returned payload, context, []⟩⟩, none, none⟩

/-- The first workflow takes over the name of the second, and then returns under its own, which has
been removed in between. -/
def Retry.takeover : List (Command Unit) :=
  [.addActivity "fetch" "fetch" () true,
    .addWorkflow "first" "fetch" (some "nightly") "",
    .addWorkflow "second" "fetch" (some "hourly") "",
    .register "first", .register "second",
    .rename "first" "hourly", .register "first",
    .unregister "nightly", .rename "first" "nightly", .register "first"]

def Retry.relabelled : List (Command Unit) :=
  [.addActivity "fetch" "fetch" () true,
    .addWorkflow "first" "fetch" (some "nightly") "",
    .register "first", .unregister "nightly", .rename "first" "hourly", .register "first"]

theorem Retry.relabelled_namesKept : NamesKept Retry.idle 1 Retry.relabelled := by
  intro position command found id member
  rcases position with _ | _ | _ | _ | _ | _ | position
  · cases member
  · cases member
  · rfl
  · rfl
  · cases member
  · rfl
  · cases found

theorem retry_registry_follows_registrations :
    (Workbench.session Retry.idle 1 Retry.takeover).registry.held.entries =
        [("hourly", "first"), ("nightly", "first")] ∧
      (∃ position, HeldSince Retry.idle 1 Retry.takeover "hourly" "first" position) ∧
      (∃ names, Listing Retry.idle 1 Retry.takeover names) ∧
      (Workbench.session Retry.idle 1 Retry.relabelled).registry.list = ["first"] ∧
      NamesKept Retry.idle 1 Retry.relabelled ∧
      ∀ id ∈ (Workbench.session Retry.idle 1 Retry.relabelled).registry.list, ∃ name,
        (Workbench.session Retry.idle 1 Retry.relabelled).name? id = some name ∧
        (Workbench.session Retry.idle 1 Retry.relabelled).registry.find name = .ok id := by
  obtain ⟨found, _, _, listing, _⟩ := registry_follows_registrations Retry.idle 1 Retry.takeover
  obtain ⟨_, _, _, _, _, _, kept⟩ := registry_follows_registrations Retry.idle 1 Retry.relabelled
  exact ⟨rfl, (found "hourly" "first").mp rfl, listing, rfl, Retry.relabelled_namesKept,
    (kept Retry.relabelled_namesKept).2⟩

end Flowtrace
