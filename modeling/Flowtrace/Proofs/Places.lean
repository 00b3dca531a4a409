import Flowtrace.Pool
import Flowtrace.Proofs.Announcements
import Flowtrace.Proofs.Effects

/-! Where runs beside each other write. A run writes to no mapping but its own, which no other run
holds and no caller passes, and changes no object but those that its call was given. -/

namespace Flowtrace

variable {φ : Type}

namespace Seat

def call : Seat φ → Call
  | .called call | .running call _ _ | .awaiting call _ _ _ => call

def place? : Seat φ → Option Nat
  | .called _ => none
  | .running _ place _ | .awaiting _ place _ _ => some place

end Seat

def Turn.index : Turn → Nat
  | .advance index | .work index => index

namespace Call

/-- The objects that a call is given: its input, and those that its caller's context holds. -/
def reach (call : Call) (callers : Callers) : List Nat :=
  call.input :: ((call.caller.bind fun place => callers.contexts[place]?).getD []).map Prod.snd

def Within (callers : Callers) (call : Call) : Prop :=
  ∀ place, call.caller = some place → place < callers.contexts.length

theorem mem_reach_of_holds {call : Call} {callers : Callers} {address : Nat}
    (holds : (call.mapping callers.memory).Holds address) : address ∈ call.reach callers := by
  obtain ⟨key, member⟩ := holds
  unfold mapping Callers.memory at member
  unfold reach
  cases caller : call.caller with
  | none => simp [caller] at member
  | some place =>
    cases found : callers.contexts[place]? with
    | none => simp [caller, found] at member
    | some context =>
      simp only [caller, Option.bind_some, List.getElem?_map, found, Option.map_some,
        Option.getD_some, List.mem_map] at member ⊢
      obtain ⟨entry, among, same⟩ := member
      cases same
      exact List.mem_cons_of_mem _ (List.mem_map_of_mem among)

end Call

/-- At most one of some calls is given the object. -/
def Callers.Unshared (callers : Callers) (calls : List Call) (address : Nat) : Prop :=
  calls.Pairwise fun call other => ¬ (address ∈ call.reach callers ∧ address ∈ other.reach callers)

instance (callers : Callers) (calls : List Call) (address : Nat) :
    Decidable (callers.Unshared calls address) :=
  inferInstanceAs (Decidable (List.Pairwise _ _))

theorem Callers.Unshared.not_mem {callers : Callers} {calls : List Call} {address : Nat}
    (unshared : callers.Unshared calls address) {first second : Nat} (apart : first ≠ second)
    {call other : Call} (called : calls[first]? = some call) (beside : calls[second]? = some other)
    (reached : address ∈ call.reach callers) : address ∉ other.reach callers := by
  obtain ⟨inside, rfl⟩ := List.getElem?_eq_some_iff.mp called
  obtain ⟨within, rfl⟩ := List.getElem?_eq_some_iff.mp beside
  have pairs := List.pairwise_iff_getElem.mp unshared
  intro shared
  rcases Nat.lt_or_gt_of_ne apart with earlier | later
  · exact pairs first second inside within earlier ⟨reached, shared⟩
  · exact pairs second first within inside later ⟨shared, reached⟩

namespace Pool

theorem eventsOf_append (pool : Pool φ) (index other : Nat) (events : List Event)
    (journal : List (Nat × Event)) (held : journal = pool.journal ++ events.map (index, ·)) :
    journal.filterMap (fun entry => if entry.1 = other then some entry.2 else none) =
      pool.eventsOf other ++ if other = index then events else [] := by
  rw [held, List.filterMap_append, eventsOf, List.filterMap_map]
  congr 1
  by_cases same : other = index
  · subst same
    simp only [Function.comp_def, if_true, List.filterMap_some]
  · have different : index ≠ other := fun equal => same equal.symm
    rw [if_neg same, List.filterMap_eq_nil_iff]
    intro event _
    exact if_neg different

/-- What a turn at one seat can do: nothing, begin the run of a call, or work at the run that is
there. -/
inductive Turned (pool : Pool φ) (index : Nat) : Pool φ → Prop where
  | idle : Turned pool index pool
  | began {call : Call} (held : pool.seats[index]? = some (.called call)) :
      Turned pool index (pool.begin index call)
  | worked {seat : Seat φ} {place : Nat} {after : Pool φ} (next : Seat φ)
      (held : pool.seats[index]? = some seat) (own : seat.place? = some place)
      (same : next.call = seat.call) (stays : next.place? = some place)
      (graph : after.graph = pool.graph) (seats : after.seats = pool.seats.set index next)
      (works : pool.memory.Works seat.call.input place after.memory)
      (tells : pool.eventsOf index = (seat.run pool.graph pool.memory).events →
        after.eventsOf index = (next.run after.graph after.memory).events)
      (others : ∀ other, other ≠ index → after.eventsOf other = pool.eventsOf other) :
      Turned pool index after

theorem eventsOf_advance {engine : Engine φ} (pool : Pool φ) (index : Nat) (call : Call)
    (place : Nat) (run : Run φ) (effects : List Effect) (other : Nat) :
    (pool.advance engine index call place run effects).eventsOf other =
      pool.eventsOf other ++
        if other = index then (run.advance engine).events.drop run.events.length else [] :=
  pool.eventsOf_append index other _ _ rfl

theorem turned_advance {engine : Engine φ} {pool : Pool φ} {index place : Nat} {seat : Seat φ}
    (held : pool.seats[index]? = some seat) (own : seat.place? = some place) {run : Run φ}
    (stands : seat.run pool.graph pool.memory = run) (effects : List Effect) :
    Turned pool index (pool.advance engine index seat.call place run effects) := by
  refine .worked (.running seat.call place _) held own rfl rfl rfl rfl (.performAll _ effects) ?_ ?_
  · intro told
    rw [eventsOf_advance, if_pos rfl, told, stands]
    simp only [Seat.run, Run.advance_events, List.drop_left]
  · intro other different
    rw [eventsOf_advance, if_neg different, List.append_nil]

theorem turned {engine : Engine φ} (workings : Workings engine) (pool : Pool φ) (turn : Turn) :
    Turned pool turn.index (pool.turn workings turn) := by
  cases turn with
  | advance index =>
    simp only [Pool.turn]
    split
    · rename_i call held
      exact .began held
    · rename_i call place run held
      split
      · exact .worked (.awaiting call place _ _) held rfl rfl rfl rfl rfl (.refl _) id
          fun _ _ => rfl
      · exact turned_advance held rfl rfl _
    · rename_i call place run pending held
      exact turned_advance held rfl rfl _
    · exact .idle
  | work index =>
    simp only [Pool.turn]
    split
    · rename_i call place run effect pending held
      exact .worked (.awaiting call place run pending) held rfl rfl rfl rfl rfl (.perform _ effect)
        id fun _ _ => rfl
    · exact .idle

theorem Turned.records {pool after : Pool φ} {index : Nat} (turned : pool.Turned index after) :
    pool.memory.changed <+: after.memory.changed := by
  cases turned with
  | idle => exact List.prefix_refl _
  | began => exact List.prefix_refl _
  | worked _ _ _ _ _ _ _ works => exact works.records

end Pool

/-- Each run has a place of its own, holds nothing but what it was given, and has told the bus what
the journal says. The callers' mappings stand as they were passed, and so do the objects that are
not recorded as changed. -/
structure Placed (graph : TaskGraph φ) (callers : Callers) (calls : List Call) (pool : Pool φ) :
    Prop where
  graph : pool.graph = graph
  calls : pool.seats.map Seat.call = calls
  room : callers.contexts.length ≤ pool.memory.mappings.length
  kept : ∀ place, place < callers.contexts.length →
    pool.memory.mappings[place]? = callers.memory.mappings[place]?
  spared : ∀ address, address ∉ pool.memory.changed →
    pool.memory.objects[address]? = callers.objects[address]?
  owned : ∀ (index : Nat) seat place, pool.seats[index]? = some seat →
    seat.place? = some place →
    callers.contexts.length ≤ place ∧ place < pool.memory.mappings.length ∧
      ∀ address, (pool.memory.mapping place).Holds address → address ∈ seat.call.reach callers
  apart : ∀ (first second : Nat) seat other place, first ≠ second →
    pool.seats[first]? = some seat → pool.seats[second]? = some other →
    seat.place? = some place → other.place? ≠ some place
  told : ∀ (index : Nat) seat, pool.seats[index]? = some seat →
    pool.eventsOf index = (seat.run pool.graph pool.memory).events

theorem Seat.run_events (seat : Seat φ) (graph other : TaskGraph φ) (memory after : Memory) :
    (seat.run graph memory).events = (seat.run other after).events := by
  cases seat <;> rfl

namespace Placed

variable {graph : TaskGraph φ} {callers : Callers} {calls : List Call} {pool after : Pool φ}
  {index : Nat} {seat : Seat φ} {call : Call}

theorem start (graph : TaskGraph φ) (callers : Callers) (calls : List Call) :
    Placed graph callers calls (.start graph callers calls) where
  graph := rfl
  calls := by simp [Pool.start, Function.comp_def, Seat.call]
  room := by simp [Pool.start, Callers.memory]
  kept _ _ := rfl
  spared _ _ := rfl
  owned index seat place held own := by
    rw [Pool.start, List.getElem?_map] at held
    obtain ⟨call, _, rfl⟩ := Option.map_eq_some_iff.mp held
    cases own
  apart first second seat other place _ held _ own := by
    rw [Pool.start, List.getElem?_map] at held
    obtain ⟨call, _, rfl⟩ := Option.map_eq_some_iff.mp held
    cases own
  told index seat held := by
    rw [Pool.start, List.getElem?_map] at held
    obtain ⟨call, _, rfl⟩ := Option.map_eq_some_iff.mp held
    rfl

theorem called (placed : Placed graph callers calls pool) (held : pool.seats[index]? = some seat) :
    calls[index]? = some seat.call := by
  rw [← placed.calls, List.getElem?_map, held, Option.map_some]

theorem mapping_eq (placed : Placed graph callers calls pool) (within : call.Within callers) :
    call.mapping pool.memory = call.mapping callers.memory := by
  unfold Call.mapping
  cases caller : call.caller with
  | none => rfl
  | some place => rw [Option.bind_some, Option.bind_some, placed.kept place (within place caller)]

theorem calls_set (placed : Placed graph callers calls pool)
    (held : pool.seats[index]? = some seat) {next : Seat φ} (same : next.call = seat.call) :
    (pool.seats.set index next).map Seat.call = calls := by
  have stays : (pool.seats.map Seat.call)[index]? = some next.call := by
    rw [List.getElem?_map, held, Option.map_some, same]
  obtain ⟨inside, equal⟩ := List.getElem?_eq_some_iff.mp stays
  rw [List.map_set, ← equal, List.set_getElem_self, placed.calls]

/-- A seat that takes its own place or a new one takes no place that is held elsewhere. -/
theorem apart_set (placed : Placed graph callers calls pool)
    (held : pool.seats[index]? = some seat) {next : Seat φ}
    (takes : ∀ place, next.place? = some place →
      seat.place? = some place ∨ pool.memory.mappings.length ≤ place)
    (first second : Nat) (one other : Seat φ) (place : Nat) (different : first ≠ second)
    (found : (pool.seats.set index next)[first]? = some one)
    (beside : (pool.seats.set index next)[second]? = some other)
    (own : one.place? = some place) : other.place? ≠ some place := by
  -- Of the two seats one at most has changed.
  have taken : ∀ (position : Nat) standing, position ≠ index →
      pool.seats[position]? = some standing → next.place? = some place →
      standing.place? ≠ some place := by
    intro position standing elsewhere stands takesPlace holds
    rcases takes place takesPlace with before | fresh
    · exact placed.apart index position seat standing place elsewhere.symm held stands before holds
    · exact absurd (placed.owned position standing place stands holds).2.1 (Nat.not_lt_of_le fresh)
  have inside := (List.getElem?_eq_some_iff.mp held).1
  by_cases changes : first = index
  · subst changes
    rw [List.getElem?_set_self inside] at found
    rw [List.getElem?_set_ne different] at beside
    cases found
    exact taken second other different.symm beside own
  · rw [List.getElem?_set_ne (Ne.symm changes)] at found
    by_cases replaced : second = index
    · subst replaced
      rw [List.getElem?_set_self inside] at beside
      cases beside
      exact fun holds => taken first one changes found holds own
    · rw [List.getElem?_set_ne (Ne.symm replaced)] at beside
      exact placed.apart first second one other place different found beside own

theorem begin (placed : Placed graph callers calls pool)
    (within : ∀ call ∈ calls, call.Within callers)
    (held : pool.seats[index]? = some (.called call)) :
    Placed graph callers calls (pool.begin index call) := by
  have known := placed.called held
  have given := placed.mapping_eq (within call (List.mem_of_getElem? known))
  constructor
  · exact placed.graph
  · exact placed.calls_set held rfl
  · simpa [Pool.begin] using Nat.le_succ_of_le placed.room
  · intro place below
    exact (List.getElem?_append_left (Nat.lt_of_lt_of_le below placed.room)).trans
      (placed.kept place below)
  · exact placed.spared
  · intro position standing place stands own
    by_cases changes : position = index
    · subst changes
      rw [Pool.begin, List.getElem?_set_self (List.getElem?_eq_some_iff.mp held).1] at stands
      cases stands
      cases own
      refine ⟨placed.room, by simp [Pool.begin], ?_⟩
      intro address holds
      simp only [Pool.begin, Memory.mapping, List.getElem?_concat_length, Option.getD_some,
        given] at holds
      exact Call.mem_reach_of_holds holds
    · rw [Pool.begin, List.getElem?_set_ne (Ne.symm changes)] at stands
      obtain ⟨above, below, reached⟩ := placed.owned position standing place stands own
      refine ⟨above, by simpa [Pool.begin] using Nat.lt_succ_of_lt below, ?_⟩
      simpa [Pool.begin, Memory.mapping, List.getElem?_append_left below] using reached
  · apply placed.apart_set held
    rintro place ⟨⟩
    exact .inr (Nat.le_refl _)
  · intro position standing stands
    by_cases changes : position = index
    · subst changes
      rw [Pool.begin, List.getElem?_set_self (List.getElem?_eq_some_iff.mp held).1] at stands
      cases stands
      exact placed.told position _ held
    · rw [Pool.begin, List.getElem?_set_ne (Ne.symm changes)] at stands
      exact (placed.told position standing stands).trans (standing.run_events ..)

theorem turned (placed : Placed graph callers calls pool)
    (within : ∀ call ∈ calls, call.Within callers) (turned : pool.Turned index after) :
    Placed graph callers calls after := by
  cases turned with
  | idle => exact placed
  | began held => exact placed.begin within held
  | @worked seat place _ next held own same stays graph seats works tells others =>
    obtain ⟨above, below, reached⟩ := placed.owned index seat place held own
    have inside := (List.getElem?_eq_some_iff.mp held).1
    constructor
    · exact graph.trans placed.graph
    · rw [seats]
      exact placed.calls_set held same
    · exact works.size ▸ placed.room
    · intro other low
      rw [works.elsewhere other (by omega), placed.kept other low]
    · intro address kept
      rw [works.spares address kept]
      exact placed.spared address fun changed => kept (works.records.subset changed)
    · intro position standing other stands holds
      rw [seats] at stands
      by_cases changes : position = index
      · subst changes
        rw [List.getElem?_set_self inside] at stands
        cases stands
        obtain rfl := Option.some.inj (stays.symm.trans holds)
        rw [works.size, same]
        exact ⟨above, below, fun address held => reached address (works.holds address held)⟩
      · rw [List.getElem?_set_ne (Ne.symm changes)] at stands
        have different : other ≠ place := by
          rintro rfl
          exact placed.apart index position seat standing other (Ne.symm changes) held stands own
            holds
        simpa only [works.size, Memory.mapping, works.elsewhere other different] using
          placed.owned position standing other stands holds
    · rw [seats]
      apply placed.apart_set held
      intro other takes
      exact .inl (own.trans (stays.symm.trans takes))
    · intro position standing stands
      rw [seats] at stands
      by_cases changes : position = index
      · subst changes
        rw [List.getElem?_set_self inside] at stands
        cases stands
        exact tells (placed.told position seat held)
      · rw [List.getElem?_set_ne (Ne.symm changes)] at stands
        rw [others position changes, placed.told position standing stands]
        exact standing.run_events ..

theorem play (placed : Placed graph callers calls pool)
    (within : ∀ call ∈ calls, call.Within callers) {engine : Engine φ}
    (workings : Workings engine) (schedule : List Turn) :
    Placed graph callers calls (pool.play workings schedule) := by
  induction schedule generalizing pool with
  | nil => exact placed
  | cons turn schedule ih => exact ih (placed.turned within (pool.turned workings turn))

/-- A turn of another call leaves a call alone, unless it changes in place what both were given. -/
theorem untouched (placed : Placed graph callers calls pool)
    (held : pool.seats[index]? = some seat) {other : Nat} (different : other ≠ index)
    (turned : pool.Turned other after)
    (unshared : ∀ address ∈ after.memory.changed, callers.Unshared calls address) :
    after.seats[index]? = some seat ∧
      (∀ place, seat.place? = some place →
        after.memory.mappings[place]? = pool.memory.mappings[place]?) ∧
      ∀ address ∈ seat.call.reach callers,
        after.memory.objects[address]? = pool.memory.objects[address]? := by
  cases turned with
  | idle => exact ⟨held, fun _ _ => rfl, fun _ _ => rfl⟩
  | began begins =>
    refine ⟨?_, ?_, fun _ _ => rfl⟩
    · rw [Pool.begin, List.getElem?_set_ne different, held]
    · intro place holds
      exact List.getElem?_append_left (placed.owned index seat place held holds).2.1
  | @worked beside place _ next works_at own same stays graph seats works tells others =>
    refine ⟨?_, ?_, ?_⟩
    · rw [seats, List.getElem?_set_ne different, held]
    · intro taken holds
      apply works.elsewhere
      rintro rfl
      exact placed.apart index other seat beside taken different.symm held works_at holds own
    · intro address reached
      by_cases changed : address ∈ after.memory.changed
      · have foreign := (unshared address changed).not_mem different.symm (placed.called held)
          (placed.called works_at) reached
        apply works.reaches address
        · rintro rfl
          exact foreign List.mem_cons_self
        · intro holds
          exact foreign ((placed.owned other beside place works_at own).2.2 address holds)
      · exact works.spares address changed

end Placed

end Flowtrace
