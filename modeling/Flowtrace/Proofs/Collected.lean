import Mathlib.Data.List.Induction
import Flowtrace.Proofs.Documents

/-! What a sequence of declarations leaves. Its keys are the declared ones, each once, in the order
of their first declarations, and each holds the value of its last declaration. -/

namespace Flowtrace

variable {α : Type}

namespace Entries

variable {κ : Type}

theorem put_of_absent {same : κ → κ → Bool} {key : κ} {value : α} {entries : List (κ × α)}
    (absent : ∀ held ∈ entries.map Prod.fst, same held key = false) :
    put same key value entries = entries ++ [(key, value)] := by
  induction entries with
  | nil => rfl
  | cons entry rest ih =>
    obtain ⟨other, later⟩ := List.forall_mem_cons.mp absent
    simp [put, other, ih later]

theorem collect_of_nodup [BEq κ] [LawfulBEq κ] {declared : List (κ × α)}
    (distinct : (declared.map Prod.fst).Nodup) : collect (· == ·) declared = declared := by
  induction declared using List.reverseRecOn with
  | nil => rfl
  | append_singleton earlier entry ih =>
    rw [List.map_append, List.nodup_append] at distinct
    obtain ⟨before, _, apart⟩ := distinct
    have kept := ih before
    rw [collect] at kept
    rw [collect, List.foldl_append, List.foldl_cons, List.foldl_nil, kept]
    refine put_of_absent fun held known => ?_
    simpa using apart held known entry.1 (by simp)

end Entries

namespace OrderedMap

theorem ofList_concat (declared : List (String × α)) (entry : String × α) :
    ofList (declared ++ [entry]) = (ofList declared).insert entry.1 entry.2 := by
  simp [ofList]

theorem keys_ofList (declared : List (String × α)) :
    (ofList declared).keys = (declared.map Prod.fst).eraseDups := by
  induction declared using List.reverseRecOn with
  | nil => rfl
  | append_singleton earlier entry ih =>
    rw [ofList_concat, keys_insert, ih, List.map_append, List.eraseDups_append]
    by_cases known : entry.1 ∈ earlier.map Prod.fst
    · rw [if_pos (List.mem_eraseDups.mpr known)]
      simp [List.removeAll, known]
    · rw [if_neg (fun held => known (List.mem_eraseDups.mp held))]
      simp [List.removeAll, known, List.eraseDups_cons]

theorem isEmpty_ofList (declared : List (String × α)) :
    (ofList declared).isEmpty = declared.isEmpty := by
  cases declared with
  | nil => rfl
  | cons entry rest =>
    have held : entry.1 ∈ (ofList (entry :: rest)).keys := by
      rw [keys_ofList]
      exact List.mem_eraseDups.mpr List.mem_cons_self
    obtain ⟨kept, member, _⟩ := List.mem_map.mp held
    exact List.isEmpty_eq_false_iff_exists_mem.mpr ⟨kept, member⟩

theorem get?_ofList (declared : List (String × α)) (key : String) :
    (ofList declared).get? key =
      ((declared.filter fun entry => entry.1 = key).getLast?).map Prod.snd := by
  induction declared using List.reverseRecOn with
  | nil => rfl
  | append_singleton earlier entry ih =>
    rw [ofList_concat, get?_insert, ih, List.filter_append]
    by_cases same : entry.1 = key <;> simp [same]

theorem entries_insert_of_absent (map : OrderedMap String α) {key : String} (value : α)
    (absent : key ∉ map.keys) : (map.insert key value).entries = map.entries ++ [(key, value)] :=
  Entries.put_of_absent fun _ held => decide_eq_false fun same => absent (same ▸ held)

theorem entries_ofList_of_nodup {declared : List (String × α)}
    (distinct : (declared.map Prod.fst).Nodup) : (ofList declared).entries = declared := by
  rw [← Entries.collect_eq_entries, Entries.collect_of_nodup distinct]

theorem get?_mapValues {β : Type} (f : α → β) (map : OrderedMap String α) (key : String) :
    (map.mapValues f).get? key = (map.get? key).map f :=
  Entries.lookup_map _ key map.entries f

theorem keys_mapValues {β : Type} (f : α → β) (map : OrderedMap String α) :
    (map.mapValues f).keys = map.keys := by
  simp [keys, mapValues, Function.comp_def]

theorem mapValues_congr {β : Type} (map : OrderedMap String α) {f g : α → β}
    (same : ∀ value ∈ map.values, f value = g value) : map.mapValues f = map.mapValues g := by
  have entries : (map.entries.map fun entry => (entry.1, f entry.2)) =
      map.entries.map fun entry => (entry.1, g entry.2) := by
    apply List.map_congr_left
    intro entry member
    rw [same entry.2 (List.mem_map.mpr ⟨entry, member, rfl⟩)]
  simp only [mapValues, entries]

end OrderedMap

end Flowtrace
