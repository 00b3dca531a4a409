/-! Maps that remember the order in which their keys were first declared. Declaring a key
again replaces its value and leaves its position. The plain association-list operations take
the test for equal keys as an argument, so that payload dictionaries, whose keys compare by
value, share them with the maps whose keys are names. -/

universe u v w

namespace Flowtrace

namespace Entries

variable {κ : Type u} {α : Type v} (same : κ → κ → Bool)

def lookup (key : κ) : List (κ × α) → Option α
  | [] => none
  | (held, value) :: rest => if same held key then some value else lookup key rest

/-- A known key keeps its position and its first spelling; a new key goes to the end. -/
def put (key : κ) (value : α) : List (κ × α) → List (κ × α)
  | [] => [(key, value)]
  | (held, old) :: rest =>
    if same held key then (held, value) :: rest else (held, old) :: put key value rest

def remove (key : κ) : List (κ × α) → List (κ × α)
  | [] => []
  | (held, value) :: rest => if same held key then rest else (held, value) :: remove key rest

def collect (declared : List (κ × α)) : List (κ × α) :=
  declared.foldl (fun entries entry => put same entry.1 entry.2 entries) []

variable {same} {β : Type w} {key : κ} {value : α} {entries : List (κ × α)} {entry : κ × α}

theorem mem_of_lookup (found : lookup same key entries = some value) :
    ∃ held, (held, value) ∈ entries := by
  induction entries with
  | nil => cases found
  | cons first rest ih =>
    simp only [lookup] at found
    split at found
    · cases found
      exact ⟨first.1, List.mem_cons_self⟩
    · obtain ⟨held, member⟩ := ih found
      exact ⟨held, List.mem_cons_of_mem _ member⟩

theorem mem_of_mem_put (member : entry ∈ put same key value entries) :
    entry ∈ entries ∨ entry.2 = value := by
  induction entries with
  | nil => exact .inr (congrArg Prod.snd (List.mem_singleton.mp member))
  | cons first rest ih =>
    simp only [put] at member
    split at member
    · rcases List.mem_cons.mp member with rfl | later
      · exact .inr rfl
      · exact .inl (List.mem_cons_of_mem _ later)
    · rcases List.mem_cons.mp member with rfl | later
      · exact .inl List.mem_cons_self
      · exact (ih later).imp_left (List.mem_cons_of_mem _)

theorem mem_of_mem_remove (member : entry ∈ remove same key entries) : entry ∈ entries := by
  induction entries with
  | nil => cases member
  | cons first rest ih =>
    simp only [remove] at member
    split at member
    · exact List.mem_cons_of_mem _ member
    · rcases List.mem_cons.mp member with rfl | later
      · exact List.mem_cons_self
      · exact List.mem_cons_of_mem _ (ih later)

variable (same key entries) (f : α → β)

theorem lookup_map : lookup same key (entries.map fun entry => (entry.1, f entry.2)) =
    (lookup same key entries).map f := by
  induction entries with
  | nil => rfl
  | cons first rest ih =>
    simp only [List.map_cons, lookup, ih]
    split <;> rfl

theorem put_map (value : α) :
    put same key (f value) (entries.map fun entry => (entry.1, f entry.2)) =
    (put same key value entries).map fun entry => (entry.1, f entry.2) := by
  induction entries with
  | nil => rfl
  | cons first rest ih =>
    simp only [List.map_cons, put, ih]
    split <;> rfl

theorem remove_map : remove same key (entries.map fun entry => (entry.1, f entry.2)) =
    (remove same key entries).map fun entry => (entry.1, f entry.2) := by
  induction entries with
  | nil => rfl
  | cons first rest ih =>
    simp only [List.map_cons, remove, ih]
    split <;> rfl

end Entries

structure OrderedMap (κ : Type u) (α : Type v) where
  entries : List (κ × α)
  distinct : (entries.map Prod.fst).Nodup
deriving DecidableEq

namespace OrderedMap

variable {κ : Type u} {α : Type v} {β : Type w}

def empty : OrderedMap κ α := ⟨[], by simp⟩

instance : Inhabited (OrderedMap κ α) := ⟨empty⟩

def keys (map : OrderedMap κ α) : List κ := map.entries.map Prod.fst

def values (map : OrderedMap κ α) : List α := map.entries.map Prod.snd

def isEmpty (map : OrderedMap κ α) : Bool := map.entries.isEmpty

def mapValues (f : α → β) (map : OrderedMap κ α) : OrderedMap κ β where
  entries := map.entries.map fun entry => (entry.1, f entry.2)
  distinct := by simpa [List.map_map, Function.comp_def] using map.distinct

variable [DecidableEq κ]

def get? (map : OrderedMap κ α) (key : κ) : Option α :=
  Entries.lookup (fun held wanted => decide (held = wanted)) key map.entries

def contains (map : OrderedMap κ α) (key : κ) : Bool := (map.get? key).isSome

theorem keys_put (key : κ) (value : α) (entries : List (κ × α)) :
    (Entries.put (fun held wanted => decide (held = wanted)) key value entries).map Prod.fst =
      if key ∈ entries.map Prod.fst then entries.map Prod.fst else entries.map Prod.fst ++ [key] := by
  induction entries with
  | nil => simp [Entries.put]
  | cons entry rest ih =>
    obtain ⟨held, old⟩ := entry
    by_cases same : held = key
    · simp [Entries.put, same]
    · have other : key ≠ held := fun equal => same equal.symm
      simp only [Entries.put, same, decide_false, Bool.false_eq_true, if_false, List.map_cons, ih,
        List.mem_cons, other, false_or]
      split <;> simp

theorem keys_remove_sublist (key : κ) (entries : List (κ × α)) :
    ((Entries.remove (fun held wanted => decide (held = wanted)) key entries).map Prod.fst).Sublist
      (entries.map Prod.fst) := by
  induction entries with
  | nil => simp [Entries.remove]
  | cons entry rest ih =>
    simp only [Entries.remove, List.map_cons]
    split
    · exact List.sublist_cons_self _ _
    · simpa using ih

def insert (map : OrderedMap κ α) (key : κ) (value : α) : OrderedMap κ α where
  entries := Entries.put (fun held wanted => decide (held = wanted)) key value map.entries
  distinct := by
    rw [keys_put]
    split
    · exact map.distinct
    · rename_i absent
      rw [List.nodup_append]
      refine ⟨map.distinct, by simp, ?_⟩
      intro held present other member equal
      obtain rfl : other = key := by simpa using member
      exact absent (equal ▸ present)

def erase (map : OrderedMap κ α) (key : κ) : OrderedMap κ α where
  entries := Entries.remove (fun held wanted => decide (held = wanted)) key map.entries
  distinct := (keys_remove_sublist key map.entries).nodup map.distinct

/-- Later declarations of a key keep its first position and win its value. -/
def ofList (declared : List (κ × α)) : OrderedMap κ α :=
  declared.foldl (fun map entry => map.insert entry.1 entry.2) empty

theorem keys_insert (map : OrderedMap κ α) (key : κ) (value : α) :
    (map.insert key value).keys = if key ∈ map.keys then map.keys else map.keys ++ [key] :=
  keys_put key value map.entries

theorem get?_insert (map : OrderedMap κ α) (key wanted : κ) (value : α) :
    (map.insert key value).get? wanted = if key = wanted then some value else map.get? wanted := by
  have general : ∀ entries : List (κ × α),
      Entries.lookup (fun held wanted => decide (held = wanted)) wanted
          (Entries.put (fun held wanted => decide (held = wanted)) key value entries) =
        if key = wanted then some value
        else Entries.lookup (fun held wanted => decide (held = wanted)) wanted entries := by
    intro entries
    induction entries with
    | nil => by_cases same : key = wanted <;> simp [Entries.put, Entries.lookup, same]
    | cons entry rest ih =>
      obtain ⟨held, old⟩ := entry
      by_cases replaced : held = key
      · subst replaced
        by_cases same : held = wanted <;> simp [Entries.put, Entries.lookup, same]
      · simp only [Entries.put, Entries.lookup, replaced, decide_false, Bool.false_eq_true,
          if_false, ih]
        by_cases same : held = wanted
        · have other : key ≠ wanted := fun equal => replaced (same.trans equal.symm)
          simp [same, other]
        · simp [same]
  exact general map.entries

/-- Since keys are distinct, looking up a key and finding its entry are the same. -/
theorem get?_eq_some_iff (map : OrderedMap κ α) (key : κ) (value : α) :
    map.get? key = some value ↔ (key, value) ∈ map.entries := by
  have general : ∀ entries : List (κ × α), (entries.map Prod.fst).Nodup →
      (Entries.lookup (fun held wanted => decide (held = wanted)) key entries = some value ↔
        (key, value) ∈ entries) := by
    intro entries
    induction entries with
    | nil => simp [Entries.lookup]
    | cons entry rest ih =>
      obtain ⟨held, old⟩ := entry
      intro distinct
      obtain ⟨fresh, later⟩ := List.nodup_cons.1 distinct
      by_cases same : held = key
      · subst same
        have absent : (held, value) ∉ rest := fun member =>
          fresh (List.mem_map.2 ⟨(held, value), member, rfl⟩)
        simp [Entries.lookup, absent, eq_comm]
      · have other : key ≠ held := fun equal => same equal.symm
        simp [Entries.lookup, same, other, ih later]
  exact general map.entries map.distinct

/-- Since keys are distinct, the first entry of a key is all that there is to erase. -/
theorem entries_erase (map : OrderedMap κ α) (key : κ) :
    (map.erase key).entries = map.entries.filter fun entry => decide (entry.1 ≠ key) := by
  have general : ∀ entries : List (κ × α), (entries.map Prod.fst).Nodup →
      Entries.remove (fun held wanted => decide (held = wanted)) key entries =
        entries.filter fun entry => decide (entry.1 ≠ key) := by
    intro entries
    induction entries with
    | nil => exact fun _ => rfl
    | cons entry rest ih =>
      obtain ⟨held, old⟩ := entry
      intro distinct
      obtain ⟨fresh, later⟩ := List.nodup_cons.1 distinct
      by_cases same : held = key
      · subst same
        have others : rest.filter (fun entry => decide (entry.1 ≠ held)) = rest := by
          rw [List.filter_eq_self]
          intro other member
          have differs : other.1 ≠ held := fun equal =>
            fresh (List.mem_map.2 ⟨other, member, equal⟩)
          simp [differs]
        simp only [Entries.remove, decide_true, if_true, List.filter_cons, ne_eq, not_true,
          decide_false, Bool.false_eq_true, if_false]
        exact others.symm
      · simp [Entries.remove, same, ih later]
  exact general map.entries map.distinct

theorem get?_erase (map : OrderedMap κ α) (key wanted : κ) :
    (map.erase key).get? wanted = if key = wanted then none else map.get? wanted := by
  apply Option.ext
  intro value
  rw [get?_eq_some_iff, entries_erase, List.mem_filter]
  by_cases same : key = wanted
  · simp [same]
  · have other : wanted ≠ key := fun equal => same equal.symm
    simp [same, other, get?_eq_some_iff]

theorem mem_keys_iff (map : OrderedMap κ α) (key : κ) :
    key ∈ map.keys ↔ map.contains key = true := by
  rw [contains, Option.isSome_iff_exists]
  simp [keys, get?_eq_some_iff]

def sameEntries [DecidableEq α] (left right : OrderedMap κ α) : Bool :=
  left.entries.length == right.entries.length &&
    left.entries.all fun entry => right.get? entry.1 == some entry.2

end OrderedMap

end Flowtrace
