import Mathlib.Data.List.Induction
import Flowtrace.Proofs.Places

/-! Runs beside each other go as they go alone. The seat of a call mirrors the only seat of a pool
that has no other call: both hold the same mapping, and the objects that the call reaches are the
same. As long as no object that two calls reach is changed in place, the turns of the others leave
it so. -/

namespace Flowtrace

variable {φ : Type}

/-- A seat in one memory and a seat in another at which one call stands alike. The second one has
not yet done what the awaited step of the first has done. -/
inductive Seat.Mirrors (engine : Engine φ) (callers : Callers) (call : Call) :
    Seat φ → Memory → Seat φ → Memory → Prop where
  | called {memory other : Memory} (mapping : call.mapping memory = call.mapping other)
      (holds : ∀ address, (call.mapping other).Holds address → address ∈ call.reach callers)
      (objects : ∀ address ∈ call.reach callers, memory.objects[address]? = other.objects[address]?) :
      Mirrors engine callers call (.called call) memory (.called call) other
  | running {place spot : Nat} {run : Run φ} {memory other : Memory}
      (alike : Memory.Alike (call.reach callers) memory place other spot) :
      Mirrors engine callers call (.running call place run) memory (.running call spot run) other
  | awaiting {place spot : Nat} {run : Run φ} {memory other : Memory} {pending : List Effect}
      (done : List Effect) (awaits : run.awaits engine = true)
      (alike : Memory.Alike (call.reach callers) memory place (other.performAll call.input spot done)
        spot) :
      Mirrors engine callers call (.awaiting call place run pending) memory
        (.awaiting call spot run (done ++ pending)) other

theorem Call.input_mem_reach (call : Call) (callers : Callers) :
    call.input ∈ call.reach callers := List.mem_cons_self

theorem Seat.Mirrors.run_eq {engine : Engine φ} {callers : Callers} {call : Call}
    {seat own : Seat φ} {memory other : Memory}
    (mirrors : seat.Mirrors engine callers call memory own other) (graph : TaskGraph φ) :
    seat.run graph memory = own.run graph other := by
  cases mirrors with
  | called mapping holds objects =>
    have payload : call.payload memory = call.payload other := by
      rw [Call.payload, Call.payload, objects _ (call.input_mem_reach callers)]
    have context : call.context memory = call.context other := by
      rw [Call.context, Call.context, mapping]
      exact Mapping.read_congr fun address held => objects address (holds address held)
    simp only [Seat.run, payload, context]
  | running alike => simp only [Seat.run, alike.context]
  | awaiting => rfl

theorem Seat.Mirrors.elsewhere {engine : Engine φ} {callers : Callers} {call : Call}
    {seat own : Seat φ} {memory after other : Memory}
    (mirrors : seat.Mirrors engine callers call memory own other)
    (mapping : call.mapping after = call.mapping memory)
    (untouched : ∀ place, seat.place? = some place →
      after.mappings[place]? = memory.mappings[place]?)
    (objects : ∀ address ∈ call.reach callers, after.objects[address]? = memory.objects[address]?) :
    seat.Mirrors engine callers call after own other := by
  cases mirrors with
  | called same holds before =>
    exact .called (mapping.trans same) holds fun address reached =>
      (objects address reached).trans (before address reached)
  | running alike => exact .running (alike.elsewhere (untouched _ rfl) objects)
  | awaiting done awaits alike =>
    exact .awaiting done awaits (alike.elsewhere (untouched _ rfl) objects)

structure Pool.Shows (engine : Engine φ) (callers : Callers) (call : Call) (pool : Pool φ)
    (index : Nat) (solo : Pool φ) : Prop where
  graph : pool.graph = solo.graph
  mirrors : ∃ seat own, pool.seats[index]? = some seat ∧ solo.seats = [own] ∧
    seat.Mirrors engine callers call pool.memory own solo.memory

namespace Pool.Shows

variable {engine : Engine φ} {graph : TaskGraph φ} {callers : Callers} {calls : List Call}
  {call : Call} {pool solo after : Pool φ} {index : Nat}

theorem start (called : calls[index]? = some call) :
    Shows engine callers call (.start graph callers calls) index
      (.start graph callers [call]) where
  graph := rfl
  mirrors := ⟨.called call, .called call, by simp [Pool.start, called], rfl,
    .called rfl (fun _ => Call.mem_reach_of_holds) fun _ _ => rfl⟩

/-- The seat of the call and the only seat of the other pool change together. -/
theorem replace {next : Pool φ} {before was : Seat φ} (seat own : Seat φ)
    (held : pool.seats[index]? = some before) (alone : solo.seats = [was])
    (graph : after.graph = next.graph) (seats : after.seats = pool.seats.set index seat)
    (sole : next.seats = solo.seats.set 0 own)
    (mirrors : seat.Mirrors engine callers call after.memory own next.memory) :
    Shows engine callers call after index next := by
  refine ⟨graph, ⟨seat, own, ?_, ?_, mirrors⟩⟩
  · rw [seats, List.getElem?_set_self (List.getElem?_eq_some_iff.mp held).1]
  · rw [sole, alone]
    rfl

theorem begin (same : pool.graph = solo.graph) (held : pool.seats[index]? = some (.called call))
    (alone : solo.seats = [.called call])
    (mirrors : (Seat.called call).Mirrors engine callers call pool.memory (.called call)
      solo.memory) :
    Shows engine callers call (pool.begin index call) index (solo.begin 0 call) := by
  have runs := mirrors.run_eq pool.graph
  cases mirrors with
  | called mapping holds objects =>
    simp only [Seat.run] at runs
    refine replace _ _ held alone same rfl rfl ?_
    rw [runs, same]
    apply Seat.Mirrors.running
    constructor
    · simpa [Pool.begin, Memory.mapping] using mapping
    · exact objects
    · simp [Pool.begin]
    · simp [Pool.begin]
    · simpa [Pool.begin, Memory.mapping, mapping] using holds

theorem advance_both (same : pool.graph = solo.graph) {seat own : Seat φ} {place spot : Nat}
    {run : Run φ} {pending : List Effect} (done : List Effect)
    (held : pool.seats[index]? = some seat) (alone : solo.seats = [own])
    (alike : Memory.Alike (call.reach callers) pool.memory place
      (solo.memory.performAll call.input spot done) spot) :
    Shows engine callers call (pool.advance engine index call place run pending) index
      (solo.advance engine 0 call spot run (done ++ pending)) := by
  refine replace _ _ held alone same rfl rfl (.running ?_)
  simp only [Pool.advance, Memory.performAll_append]
  exact alike.performAll pending

theorem advance (workings : Workings engine) (shows : Shows engine callers call pool index solo) :
    Shows engine callers call (pool.turn workings (.advance index)) index
      (solo.turn workings (.advance 0)) := by
  obtain ⟨seat, own, held, alone, mirrors⟩ := shows.mirrors
  have first : solo.seats[0]? = some own := by rw [alone]; rfl
  cases mirrors with
  | called mapping holds objects =>
    simp only [Pool.turn, held, first]
    exact begin shows.graph held alone (.called mapping holds objects)
  | running alike =>
    simp only [Pool.turn, held, first, alike.context]
    split
    · rename_i awaits
      exact replace _ _ held alone shows.graph rfl rfl (.awaiting [] awaits alike)
    · exact advance_both shows.graph [] held alone alike
  | awaiting done awaits alike =>
    simp only [Pool.turn, held, first]
    exact advance_both shows.graph done held alone alike

/-- What an awaited step does before it settles, the step of the call alone has still to do. -/
theorem work (workings : Workings engine) (shows : Shows engine callers call pool index solo) :
    Shows engine callers call (pool.turn workings (.work index)) index solo := by
  obtain ⟨seat, own, held, alone, mirrors⟩ := shows.mirrors
  cases mirrors with
  | called => simpa only [Pool.turn, held] using shows
  | running => simpa only [Pool.turn, held] using shows
  | @awaiting place spot run _ _ pending done awaits alike =>
    cases pending with
    | nil => simpa only [Pool.turn, held] using shows
    | cons effect pending =>
      simp only [Pool.turn, held]
      have still : solo.seats =
          solo.seats.set 0 (.awaiting call spot run (done ++ [effect] ++ pending)) := by
        rw [alone, List.append_assoc]
        rfl
      refine replace _ _ held alone shows.graph rfl still (.awaiting _ awaits ?_)
      rw [Memory.performAll_append]
      exact alike.perform effect

theorem elsewhere (shows : Shows engine callers call pool index solo)
    (placed : Placed graph callers calls pool) (within : ∀ call ∈ calls, call.Within callers)
    (called : calls[index]? = some call) {other : Nat} (different : other ≠ index)
    (turned : pool.Turned other after)
    (unshared : ∀ address ∈ after.memory.changed, callers.Unshared calls address) :
    Shows engine callers call after index solo := by
  obtain ⟨seat, own, held, alone, mirrors⟩ := shows.mirrors
  obtain rfl := Option.some.inj (called.symm.trans (placed.called held))
  have later := placed.turned within turned
  have known := within seat.call (List.mem_of_getElem? called)
  have mapping := (later.mapping_eq known).trans (placed.mapping_eq known).symm
  obtain ⟨stays, mappings, objects⟩ := placed.untouched held different turned unshared
  exact ⟨later.graph.trans (placed.graph.symm.trans shows.graph), seat, own, stays, alone,
    mirrors.elsewhere mapping mappings objects⟩

end Pool.Shows

namespace Pool

variable {engine : Engine φ} (workings : Workings engine)

def alone (graph : TaskGraph φ) (callers : Callers) (call : Call) (turns : Nat) : Pool φ :=
  (Pool.start graph callers [call]).play workings (List.replicate turns (.advance 0))

theorem play_append (pool : Pool φ) (earlier later : List Turn) :
    pool.play workings (earlier ++ later) =
      (pool.play workings earlier).play workings later := by
  simp [play]

theorem changed_of_prefix (pool : Pool φ) {earlier schedule : List Turn}
    (sooner : earlier <+: schedule) :
    (pool.play workings earlier).memory.changed <+:
      (pool.play workings schedule).memory.changed := by
  obtain ⟨later, rfl⟩ := sooner
  rw [play_append]
  generalize pool.play workings earlier = standing
  induction later generalizing standing with
  | nil => exact List.prefix_refl _
  | cons turn later ih => exact (standing.turned workings turn).records.trans (ih _)

variable {workings} {graph : TaskGraph φ} {callers : Callers} {calls : List Call} {call : Call}
  {index : Nat}

end Pool

namespace Run

variable {engine : Engine φ}

theorem interrupt_context (run : Run φ) (fault : Fault) :
    (run.interrupt fault).context = run.context := by
  unfold interrupt
  split
  · rfl
  · rfl
  · split <;> rfl

theorem announce_context {event : Event} {next : Run φ → Run φ} {run : Run φ}
    (kept : ∀ events, (next { run with events }).context = run.context) :
    (run.announce engine event next).context = run.context := by
  rw [announce_eq]
  split
  · exact kept _
  · exact interrupt_context _ _

theorem route_context (run : Run φ) (task : Task φ) (outcome : Outcome) :
    (run.route task outcome).context = run.context := by
  unfold route
  cases task.nextMove run.payload outcome with
  | follow edge target produced carried =>
    simp only [take]
    split <;> rfl
  | leave edge output => rfl
  | refuse fault output chained => rfl

/-- A turn leaves the context that the effects of the step called in it lead to. -/
theorem context_advance (workings : Workings engine) (run : Run φ) :
    (run.advance engine).context = Effect.allOnContext (workings.next run) run.context := by
  unfold advance Workings.next
  cases phase : run.phase with
  | starting =>
    cases start : run.graph.startTask? with
    | none => rfl
    | some task => exact announce_context fun _ => rfl
  | entering task => exact announce_context fun _ => rfl
  | calling task =>
    simp only [workings.leads, call]
    split <;> rfl
  | reporting task outcome => exact announce_context fun _ => route_context _ task outcome
  | failing error => exact announce_context fun _ => rfl
  | completing => exact announce_context fun _ => rfl
  | stalled => rfl
  | ended ending => rfl

end Run

/-- A seat of a call that has changed nothing in place: its run stands where the engine's own run
stands, and the effects still to come lead where its next turn leads. -/
inductive Seat.Follows (engine : Engine φ) (graph : TaskGraph φ) (callers : Callers) (call : Call) :
    Seat φ → Memory → Prop where
  | called {memory : Memory} (fresh : memory = callers.memory) :
      Follows engine graph callers call (.called call) memory
  | running {place : Nat} {run : Run φ} {memory : Memory} (turns : Nat)
      (inside : place < memory.mappings.length)
      (stands : { run with context := memory.context place } =
        engine.run turns graph (call.payload callers.memory) (call.context callers.memory)) :
      Follows engine graph callers call (.running call place run) memory
  | awaiting {place : Nat} {run : Run φ} {memory : Memory} {pending : List Effect} (turns : Nat)
      (inside : place < memory.mappings.length)
      (stands : run =
        engine.run turns graph (call.payload callers.memory) (call.context callers.memory))
      (leads : Effect.allOnContext pending (memory.context place) =
        (run.advance engine).context) :
      Follows engine graph callers call (.awaiting call place run pending) memory

/-- There is one seat, and it follows. -/
def Pool.Follows (engine : Engine φ) (graph : TaskGraph φ) (callers : Callers) (call : Call)
    (pool : Pool φ) : Prop :=
  ∃ seat, pool.seats = [seat] ∧ seat.Follows engine graph callers call pool.memory

namespace Pool

variable {engine : Engine φ} {workings : Workings engine} {graph : TaskGraph φ}
  {callers : Callers} {call : Call} {pool : Pool φ} {seat : Seat φ}

section Moves

variable (sole : pool.seats = [seat])
include sole

theorem Follows.replace {after : Pool φ} (next : Seat φ)
    (seats : after.seats = pool.seats.set 0 next)
    (follows : next.Follows engine graph callers call after.memory) :
    after.Follows engine graph callers call :=
  ⟨next, by rw [seats, sole]; rfl, follows⟩

theorem follows_begin (same : pool.graph = graph) (fresh : pool.memory = callers.memory) :
    (pool.begin 0 call).Follows engine graph callers call := by
  have shown : (pool.begin 0 call).memory.context pool.memory.mappings.length =
      call.context callers.memory := by
    simp [Pool.begin, Memory.context, Memory.mapping, Call.context, fresh]
  refine .replace sole _ rfl (.running 0 (by simp [Pool.begin]) ?_)
  rw [shown, same, fresh]
  rfl

variable {place turns : Nat} {run : Run φ} (inside : place < pool.memory.mappings.length)
include inside

theorem follows_await
    (stands : run =
      engine.run turns graph (call.payload callers.memory) (call.context callers.memory))
    (context : run.context = pool.memory.context place) :
    (pool.await 0 call place run (workings.next run)).Follows engine graph callers call :=
  .replace sole _ rfl
    (.awaiting turns inside stands (context ▸ (Run.context_advance workings run).symm))

theorem follows_advance {effects : List Effect}
    (stands : run =
      engine.run turns graph (call.payload callers.memory) (call.context callers.memory))
    (leads : Effect.allOnContext effects (pool.memory.context place) =
      (run.advance engine).context)
    (unchanged : (pool.memory.performAll call.input place effects).changed = []) :
    (pool.advance engine 0 call place run effects).Follows engine graph callers call := by
  have works : pool.memory.Works call.input place _ := .performAll pool.memory effects
  refine .replace sole _ rfl (.running (turns + 1) (works.size ▸ inside) ?_)
  simp only [Pool.advance, Memory.context_performAll inside effects unchanged, leads]
  rw [Engine.run_succ, ← stands]

theorem follows_work {effect : Effect} {pending : List Effect}
    (stands : run =
      engine.run turns graph (call.payload callers.memory) (call.context callers.memory))
    (leads : Effect.allOnContext (effect :: pending) (pool.memory.context place) =
      (run.advance engine).context)
    (unchanged : (pool.memory.perform call.input place effect).changed = []) :
    (pool.work 0 call place run effect pending).Follows engine graph callers call := by
  have works : pool.memory.Works call.input place _ := .perform pool.memory effect
  refine .replace sole _ rfl (.awaiting turns (works.size ▸ inside) stands ?_)
  rw [← leads]
  exact congrArg (Effect.allOnContext pending) (Memory.context_perform inside effect unchanged)

end Moves

theorem Follows.turn (follows : pool.Follows engine graph callers call)
    (same : pool.graph = graph) (turn : Turn)
    (unchanged : (pool.turn workings turn).memory.changed = []) :
    (pool.turn workings turn).Follows engine graph callers call := by
  obtain ⟨seat, sole, there⟩ := follows
  have only : ∀ index standing, pool.seats[index]? = some standing →
      index = 0 ∧ standing = seat := by
    intro index standing held
    rw [sole] at held
    cases index with
    | zero => exact ⟨rfl, (Option.some.inj held).symm⟩
    | succ index => cases held
  revert unchanged
  cases turn with
  | advance index =>
    simp only [Pool.turn]
    split <;> intro unchanged
    · rename_i known held
      obtain ⟨rfl, rfl⟩ := only _ _ held
      cases there with
      | called fresh => exact follows_begin sole same fresh
    · rename_i known place run held
      obtain ⟨rfl, rfl⟩ := only _ _ held
      cases there with
      | running turns inside stands =>
        revert unchanged
        split <;> intro unchanged
        · exact follows_await sole inside stands rfl
        · exact follows_advance sole inside stands (Run.context_advance workings _).symm unchanged
    · rename_i known place run pending held
      obtain ⟨rfl, rfl⟩ := only _ _ held
      cases there with
      | awaiting turns inside stands leads =>
        exact follows_advance sole inside stands leads unchanged
    · exact ⟨seat, sole, there⟩
  | work index =>
    simp only [Pool.turn]
    split <;> intro unchanged
    · rename_i known place run effect pending held
      obtain ⟨rfl, rfl⟩ := only _ _ held
      cases there with
      | awaiting turns inside stands leads =>
        exact follows_work sole inside stands leads unchanged
    · exact ⟨seat, sole, there⟩

/-- A call that is alone and changes nothing in place runs as the engine runs its graph with what
the call was given. -/
theorem runs_of_unchanged (within : call.Within callers) (schedule : List Turn)
    (unchanged : ((Pool.start graph callers [call]).play workings schedule).memory.changed = []) :
    ∃ turns, ((Pool.start graph callers [call]).play workings schedule).runs =
      [engine.run turns graph (call.payload callers.memory) (call.context callers.memory)] := by
  have placed := fun schedule => (Placed.start graph callers [call]).play
    (by simpa using within) workings schedule
  have follows : ((Pool.start graph callers [call]).play workings schedule).Follows engine graph
      callers call := by
    induction schedule using List.reverseRecOn with
    | nil => exact ⟨.called call, rfl, .called rfl⟩
    | append_singleton earlier turn ih =>
      have before := changed_of_prefix workings (Pool.start graph callers [call])
        (List.prefix_append earlier [turn])
      have follows := ih (List.prefix_nil.mp (unchanged ▸ before))
      rw [play_append] at unchanged ⊢
      exact follows.turn (placed earlier).graph turn unchanged
  obtain ⟨seat, sole, follows⟩ := follows
  rw [runs, sole, List.map_singleton, (placed schedule).graph]
  cases follows with
  | called fresh => exact ⟨0, by simp only [Seat.run, fresh]; rfl⟩
  | running turns inside stands => exact ⟨turns, congrArg ([·]) stands⟩
  | awaiting turns inside stands leads => exact ⟨turns, congrArg ([·]) stands⟩

end Pool

namespace Logbook

def entered (payload : Value) (context : Context) : Option Value :=
  match context.get? "log" with
  | some (.list items) => some (.list (items ++ [payload]))
  | _ => none

def append : Step where
  mode := .awaited
  act payload context :=
    match entered payload context with
    | some log => ⟨.returned log, context.set "log" log, []⟩
    | none => ⟨.raised (.typeError "no log"), context, []⟩

def engine : Engine Unit := ⟨fun _ => append, none, some .recording⟩

def workings : Workings engine where
  effects _ payload context :=
    match entered payload context with
    | some log => [.change (.text "log") log]
    | none => []
  leads _ payload context := by
    simp only [engine, Step.perform, append]
    cases kept : entered payload context with
    | none => rfl
    | some log =>
      have held : ∃ before, Entries.lookup Value.sameKey (.text "log") context = some before := by
        unfold entered Context.get? at kept
        split at kept
        · exact ⟨_, ‹_›⟩
        · cases kept
      obtain ⟨before, held⟩ := held
      simp [Effect.allOnContext, Effect.onContext, held, Context.set]

def graph : TaskGraph Unit := .ofList [⟨"append", (), .activity none none, true⟩]

/-- Two callers with a log each, which share the text above it. -/
def apart : Callers where
  objects := [.int 1, .int 2, .list [], .list [], .text "log of the day"]
  contexts := [[(.text "title", 4), (.text "log", 2)], [(.text "title", 4), (.text "log", 3)]]

def beside : Pool Unit :=
  (Pool.start graph apart [⟨0, some 0⟩, ⟨1, some 1⟩]).play workings
    (List.replicate 4 (.advance 0) ++ List.replicate 4 (.advance 1) ++ [.work 1, .work 0] ++
      (List.replicate 3 [.advance 0, .advance 1]).flatten)

def together : Callers where
  objects := [.int 1, .int 2, .list []]
  contexts := [[(.text "log", 2)]]

def shared : Pool Unit :=
  (Pool.start graph together [⟨0, some 0⟩, ⟨1, some 0⟩]).play workings
    (List.replicate 7 (.advance 0) ++ List.replicate 7 (.advance 1))

end Logbook

end Flowtrace
