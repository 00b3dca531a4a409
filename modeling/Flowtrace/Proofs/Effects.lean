import Flowtrace.Memory

/-! What effects do to the memory. A step writes to the mapping of its own run and to the objects
that it reaches, so whoever reaches none of the objects that it has changed sees no difference. -/

namespace Flowtrace

def Mapping.Holds (mapping : Mapping) (address : Nat) : Prop :=
  ∃ key, (key, Slot.given address) ∈ mapping

theorem Mapping.read_congr {mapping : Mapping} {objects others : List Value}
    (same : ∀ address, mapping.Holds address → objects[address]? = others[address]?) :
    mapping.read objects = mapping.read others := by
  apply List.map_congr_left
  intro entry member
  obtain ⟨key, slot⟩ := entry
  cases slot with
  | given address => simp only [Slot.read, same address ⟨key, member⟩]
  | own value => rfl

theorem Mapping.Holds.of_put {mapping : Mapping} {key value : Value} {address : Nat}
    (holds : Mapping.Holds (Entries.put Value.sameKey key (.own value) mapping) address) :
    mapping.Holds address := by
  obtain ⟨held, member⟩ := holds
  rcases Entries.mem_of_mem_put member with before | placed
  · exact ⟨held, before⟩
  · cases placed

theorem Mapping.Holds.of_remove {mapping : Mapping} {key : Value} {address : Nat}
    (holds : Mapping.Holds (Entries.remove Value.sameKey key mapping) address) :
    mapping.Holds address := by
  obtain ⟨held, member⟩ := holds
  exact ⟨held, Entries.mem_of_mem_remove member⟩

theorem Mapping.not_holds_own {context : Context} {address : Nat} :
    ¬ Mapping.Holds (context.map fun entry => (entry.1, .own entry.2)) address := by
  intro ⟨held, member⟩
  obtain ⟨entry, _, same⟩ := List.mem_map.mp member
  cases same

namespace Memory

theorem mapping_bind {memory : Memory} {place : Nat} (inside : place < memory.mappings.length)
    (mapping : Mapping) : (memory.bind place mapping).mapping place = mapping := by
  simp only [Memory.mapping, bind, List.getElem?_set_self inside, Option.getD_some]

theorem context_bind {memory : Memory} {place : Nat} (inside : place < memory.mappings.length)
    (mapping : Mapping) :
    (memory.bind place mapping).context place = mapping.read memory.objects := by
  rw [context, mapping_bind inside, bind]

/-- What a step with an input and a place for its context can do to the memory. -/
structure Works (input place : Nat) (before after : Memory) : Prop where
  size : after.mappings.length = before.mappings.length
  elsewhere : ∀ other, other ≠ place → after.mappings[other]? = before.mappings[other]?
  holds : ∀ address, (after.mapping place).Holds address → (before.mapping place).Holds address
  reaches : ∀ address, address ≠ input → ¬ (before.mapping place).Holds address →
    after.objects[address]? = before.objects[address]?
  spares : ∀ address, address ∉ after.changed →
    after.objects[address]? = before.objects[address]?
  records : before.changed <+: after.changed

namespace Works

variable {input place : Nat} {before middle after : Memory}

theorem refl (memory : Memory) : Works input place memory memory where
  size := rfl
  elsewhere _ _ := rfl
  holds _ holds := holds
  reaches _ _ _ := rfl
  spares _ _ := rfl
  records := List.prefix_refl _

theorem trans (first : Works input place before middle) (second : Works input place middle after) :
    Works input place before after where
  size := second.size.trans first.size
  elsewhere other apart := (second.elsewhere other apart).trans (first.elsewhere other apart)
  holds address holds := first.holds address (second.holds address holds)
  reaches address other absent :=
    (second.reaches address other fun holds => absent (first.holds address holds)).trans
      (first.reaches address other absent)
  spares address kept :=
    (second.spares address kept).trans
      (first.spares address fun changed => kept (second.records.subset changed))
  records := first.records.trans second.records

theorem bind {memory : Memory} {mapping : Mapping}
    (holds : ∀ address, mapping.Holds address → (memory.mapping place).Holds address) :
    Works input place memory (memory.bind place mapping) where
  size := List.length_set
  elsewhere _ apart := List.getElem?_set_ne apart.symm
  holds address held := by
    by_cases inside : place < memory.mappings.length
    · rw [mapping_bind inside] at held
      exact holds address held
    · have same : memory.mappings.set place mapping = memory.mappings :=
        List.set_eq_of_length_le (Nat.le_of_not_lt inside)
      simpa only [Memory.mapping, Memory.bind, same] using held
  reaches _ _ _ := rfl
  spares _ _ := rfl
  records := List.prefix_refl _

theorem change {memory : Memory} {address : Nat} {value : Value}
    (reached : address = input ∨ (memory.mapping place).Holds address) :
    Works input place memory (memory.change address value) where
  size := rfl
  elsewhere _ _ := rfl
  holds _ holds := holds
  reaches other notInput absent := by
    refine List.getElem?_set_ne ?_
    rintro rfl
    exact reached.elim notInput absent
  spares other kept := by
    refine List.getElem?_set_ne ?_
    rintro rfl
    exact kept (List.mem_append_right _ (List.mem_singleton_self _))
  records := List.prefix_append _ _

theorem perform (memory : Memory) (effect : Effect) :
    Works input place memory (memory.perform input place effect) := by
  cases effect with
  | assign key value => exact .bind fun _ => Mapping.Holds.of_put
  | delete key => exact .bind fun _ => Mapping.Holds.of_remove
  | replace context => exact .bind fun _ holds => absurd holds Mapping.not_holds_own
  | change key value =>
    simp only [Memory.perform]
    split
    · rename_i address found
      obtain ⟨held, member⟩ := Entries.mem_of_lookup found
      exact .change (.inr ⟨held, member⟩)
    · exact .bind fun _ => Mapping.Holds.of_put
    · exact .refl memory
  | changeInput value => exact .change (.inl rfl)

theorem performAll (memory : Memory) (effects : List Effect) :
    Works input place memory (memory.performAll input place effects) := by
  induction effects generalizing memory with
  | nil => exact .refl memory
  | cons effect effects ih => exact (perform memory effect).trans (ih _)

end Works

theorem performAll_append (input place : Nat) (memory : Memory) (first second : List Effect) :
    memory.performAll input place (first ++ second) =
      (memory.performAll input place first).performAll input place second := by
  simp [performAll]

/-- Two memories hold the same mapping at two places, and show the same of all objects that a call
reaches. -/
structure Alike (reach : List Nat) (memory : Memory) (place : Nat) (other : Memory) (spot : Nat) :
    Prop where
  mapping : memory.mapping place = other.mapping spot
  objects : ∀ address ∈ reach, memory.objects[address]? = other.objects[address]?
  inside : place < memory.mappings.length
  within : spot < other.mappings.length
  holds : ∀ address, (memory.mapping place).Holds address → address ∈ reach

namespace Alike

variable {reach : List Nat} {memory other : Memory} {place spot input : Nat}

theorem context (alike : Alike reach memory place other spot) :
    memory.context place = other.context spot := by
  rw [Memory.context, Memory.context, ← alike.mapping]
  exact Mapping.read_congr fun address holds => alike.objects address (alike.holds address holds)

theorem bind (alike : Alike reach memory place other spot) {mapping : Mapping}
    (holds : ∀ address, mapping.Holds address → (memory.mapping place).Holds address) :
    Alike reach (memory.bind place mapping) place (other.bind spot mapping) spot where
  mapping := by rw [mapping_bind alike.inside, mapping_bind alike.within]
  objects := alike.objects
  inside := by simpa [Memory.bind] using alike.inside
  within := by simpa [Memory.bind] using alike.within
  holds address held := by
    rw [mapping_bind alike.inside] at held
    exact alike.holds address (holds address held)

theorem change (alike : Alike reach memory place other spot) (address : Nat) (value : Value) :
    Alike reach (memory.change address value) place (other.change address value) spot where
  mapping := alike.mapping
  objects held member := by
    simp only [Memory.change, List.getElem?_set', alike.objects held member]
  inside := alike.inside
  within := alike.within
  holds := alike.holds

theorem perform (alike : Alike reach memory place other spot) (effect : Effect) :
    Alike reach (memory.perform input place effect) place (other.perform input spot effect)
      spot := by
  cases effect with
  | assign key value =>
    simp only [Memory.perform, ← alike.mapping]
    exact alike.bind fun _ => Mapping.Holds.of_put
  | delete key =>
    simp only [Memory.perform, ← alike.mapping]
    exact alike.bind fun _ => Mapping.Holds.of_remove
  | replace context => exact alike.bind fun _ holds => absurd holds Mapping.not_holds_own
  | change key value =>
    simp only [Memory.perform, ← alike.mapping]
    split
    · exact alike.change _ value
    · exact alike.bind fun _ => Mapping.Holds.of_put
    · exact alike
  | changeInput value => exact alike.change input value

theorem performAll (alike : Alike reach memory place other spot) (effects : List Effect) :
    Alike reach (memory.performAll input place effects) place
      (other.performAll input spot effects) spot := by
  induction effects generalizing memory other with
  | nil => exact alike
  | cons effect effects ih => exact ih (alike.perform effect)

/-- What changes neither the mapping nor an object that the call reaches changes nothing. -/
theorem elsewhere (alike : Alike reach memory place other spot) {after : Memory}
    (mapping : after.mappings[place]? = memory.mappings[place]?)
    (objects : ∀ address ∈ reach, after.objects[address]? = memory.objects[address]?) :
    Alike reach after place other spot where
  mapping := by rw [Memory.mapping, mapping]; exact alike.mapping
  objects address member := (objects address member).trans (alike.objects address member)
  inside := by
    rw [List.getElem?_eq_getElem alike.inside] at mapping
    exact (List.getElem?_eq_some_iff.mp mapping).1
  within := alike.within
  holds := by rw [Memory.mapping, mapping]; exact alike.holds

end Alike

section Unchanged

variable {input place : Nat} {memory : Memory}

/-- Where no object is changed in place, a step leaves what its effects leave. -/
theorem context_perform (inside : place < memory.mappings.length) (effect : Effect)
    (unchanged : (memory.perform input place effect).changed = []) :
    (memory.perform input place effect).context place =
      effect.onContext (memory.context place) := by
  cases effect with
  | assign key value =>
    exact (context_bind inside _).trans (Entries.put_map ..).symm
  | delete key => exact (context_bind inside _).trans (Entries.remove_map ..).symm
  | replace context =>
    refine (context_bind inside _).trans ?_
    simp only [Mapping.read, List.map_map]
    exact List.map_id _
  | change key value =>
    have shown : Entries.lookup Value.sameKey key (memory.context place) =
        (Entries.lookup Value.sameKey key (memory.mapping place)).map (·.read memory.objects) :=
      Entries.lookup_map ..
    simp only [perform] at unchanged ⊢
    split at unchanged
    · simp [change] at unchanged
    · rename_i held found
      simp only [Effect.onContext, shown, found, Option.map_some]
      exact (context_bind inside _).trans (Entries.put_map ..).symm
    · rename_i absent
      simp only [Effect.onContext, shown, absent, Option.map_none]
  | changeInput value => simp [perform, change] at unchanged

theorem context_performAll (inside : place < memory.mappings.length) (effects : List Effect)
    (unchanged : (memory.performAll input place effects).changed = []) :
    (memory.performAll input place effects).context place =
      Effect.allOnContext effects (memory.context place) := by
  induction effects generalizing memory with
  | nil => rfl
  | cons effect effects ih =>
    have works : Works input place memory _ := .perform memory effect
    have later : Works input place _ _ := .performAll (memory.perform input place effect) effects
    have first := context_perform inside effect
      (List.prefix_nil.mp (unchanged ▸ later.records))
    rw [Effect.allOnContext, List.foldl_cons, ← first]
    exact ih (works.size ▸ inside) unchanged

end Unchanged

end Memory

end Flowtrace
