import Flowtrace.Run

/-! The memory that runs side by side have in common. A context maps keys to objects. A run copies
the mapping that its caller passes and not the objects, so several runs may hold one object, each
under a key of its own mapping. What a step assigns to a key belongs to its run alone; an object
that a step changes in place is changed for all who hold it. Two objects here have no part in
common that could be changed. -/

namespace Flowtrace

inductive Slot where
  | given (address : Nat)
  | own (value : Value)

abbrev Mapping := List (Value × Slot)

def Slot.read (objects : List Value) : Slot → Value
  | .given address => objects[address]?.getD .null
  | .own value => value

def Mapping.read (objects : List Value) (mapping : Mapping) : Context :=
  mapping.map fun entry => (entry.1, entry.2.read objects)

/-- What callers pass: objects, and contexts that hold them by their addresses. -/
structure Callers where
  objects : List Value
  contexts : List (List (Value × Nat))

/-- The mappings stand at places; the addresses of the objects that were changed in place are kept
in the order of the changes. -/
structure Memory where
  objects : List Value
  mappings : List Mapping
  changed : List Nat

def Callers.memory (callers : Callers) : Memory :=
  ⟨callers.objects, callers.contexts.map (·.map fun entry => (entry.1, .given entry.2)), []⟩

/-- What a step does to what it is given. The object that a run was given as its input can be
changed in place like those of its context. -/
inductive Effect where
  | assign (key value : Value)
  | delete (key : Value)
  | replace (context : Context)
  | change (key value : Value)
  | changeInput (value : Value)

/-- The context after an effect, as the run sees it that holds each object once. -/
def Effect.onContext : Effect → Context → Context
  | .assign key value, context => Entries.put Value.sameKey key value context
  | .delete key, context => Entries.remove Value.sameKey key context
  | .replace next, _ => next
  | .change key value, context =>
    match Entries.lookup Value.sameKey key context with
    | some _ => Entries.put Value.sameKey key value context
    | none => context
  | .changeInput _, context => context

def Effect.allOnContext (effects : List Effect) (context : Context) : Context :=
  effects.foldl (fun left effect => effect.onContext left) context

namespace Memory

def mapping (memory : Memory) (place : Nat) : Mapping := memory.mappings[place]?.getD []

def context (memory : Memory) (place : Nat) : Context :=
  (memory.mapping place).read memory.objects

def bind (memory : Memory) (place : Nat) (mapping : Mapping) : Memory :=
  { memory with mappings := memory.mappings.set place mapping }

def change (memory : Memory) (address : Nat) (value : Value) : Memory :=
  { memory with
    objects := memory.objects.set address value
    changed := memory.changed ++ [address] }

/-- An effect of a step whose run was given an object as its input and has its context at a
place. -/
def perform (input place : Nat) (memory : Memory) : Effect → Memory
  | .assign key value =>
    memory.bind place (Entries.put Value.sameKey key (.own value) (memory.mapping place))
  | .delete key => memory.bind place (Entries.remove Value.sameKey key (memory.mapping place))
  | .replace context => memory.bind place (context.map fun entry => (entry.1, .own entry.2))
  | .change key value =>
    match Entries.lookup Value.sameKey key (memory.mapping place) with
    | some (.given address) => memory.change address value
    | some (.own _) =>
      memory.bind place (Entries.put Value.sameKey key (.own value) (memory.mapping place))
    | none => memory
  | .changeInput value => memory.change input value

def performAll (input place : Nat) (memory : Memory) (effects : List Effect) : Memory :=
  effects.foldl (perform input place) memory

end Memory

/-- How the steps of an engine work: the effects, one after another, that lead to the context that
a step leaves. -/
structure Workings {φ : Type} (engine : Engine φ) where
  effects : φ → Value → Context → List Effect
  leads : ∀ step payload context, Effect.allOnContext (effects step payload context) context =
    ((engine.steps step).perform engine.deadline payload context).context

namespace Workings

variable {φ : Type} {engine : Engine φ}

/-- Steps that change nothing in place: they assign all that they leave. -/
def assigning (engine : Engine φ) : Workings engine where
  effects step payload context :=
    [.replace ((engine.steps step).perform engine.deadline payload context).context]
  leads _ _ _ := rfl

def next (workings : Workings engine) (run : Run φ) : List Effect :=
  match run.phase with
  | .calling task => workings.effects task.step run.payload run.context
  | _ => []

end Workings

end Flowtrace
