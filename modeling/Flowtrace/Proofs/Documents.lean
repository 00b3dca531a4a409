import Flowtrace.Api.App
import Flowtrace.Value.Json

/-! Reading the documents that the interface answers with. A reader looks up fields, goes through
items and tests flags. What a response spells differently from the document that it is made from is
numbers only, so what is read off the one can be read off the other. -/

namespace Flowtrace

namespace Json

/-- The value of a field; null where there is none. -/
def part (document : Json String) (key : String) : Json String := (document.field? key).getD .null

def items : Json String → List (Json String)
  | .arr items => items
  | _ => []

def fields : Json String → List (String × Json String)
  | .obj fields => fields
  | _ => []

def holds : Json String → Bool
  | .bool value => value
  | _ => false

@[simp] theorem part_obj_cons (field : String × Json String) (fields : List (String × Json String))
    (key : String) :
    part (.obj (field :: fields)) key =
      if field.1 = key then field.2 else part (.obj fields) key := by
  by_cases same : field.1 = key
  · simp [part, field?, Entries.lookup, same]
  · simp [part, field?, Entries.lookup, same]

@[simp] theorem items_arr (items : List (Json String)) : (Json.arr items).items = items := rfl

@[simp] theorem fields_obj (fields : List (String × Json String)) :
    (Json.obj fields).fields = fields := rfl

@[simp] theorem fields_null : Json.null.fields = [] := rfl

@[simp] theorem holds_bool (value : Bool) : (Json.bool value).holds = value := rfl

/-- A document in which no object has two fields of one name. -/
inductive Proper : Json String → Prop where
  | null : Proper .null
  | bool (value : Bool) : Proper (.bool value)
  | int (value : Int) : Proper (.int value)
  | float (value : Binary64) : Proper (.float value)
  | str (value : String) : Proper (.str value)
  | arr {items : List (Json String)} (each : ∀ item ∈ items, Proper item) : Proper (.arr items)
  | obj {fields : List (String × Json String)} (distinct : (fields.map Prod.fst).Nodup)
      (each : ∀ field ∈ fields, Proper field.2) : Proper (.obj fields)

theorem Proper.ofOption (text : Option String) : (Json.ofOption text).Proper := by
  cases text with
  | none => exact .null
  | some text => exact .str text

end Json

section Collect

variable {α : Type}

theorem OrderedMap.mem_values_ofList {declared : List (String × α)} {value : α}
    (member : value ∈ (OrderedMap.ofList declared).values) :
    value ∈ declared.map Prod.snd := by
  have general : ∀ (declared : List (String × α)) (map : OrderedMap String α),
      value ∈ (declared.foldl (fun map entry => map.insert entry.1 entry.2) map).values →
        value ∈ map.values ∨ value ∈ declared.map Prod.snd := by
    intro declared
    induction declared with
    | nil => exact fun map held => .inl held
    | cons entry rest ih =>
      intro map held
      rcases ih _ held with inserted | later
      · rcases mem_values_insert inserted with before | newest
        · exact .inl before
        · exact .inr (by simp [newest])
      · exact .inr (List.mem_cons_of_mem _ later)
  rcases general declared .empty member with before | later
  · cases before
  · exact later

theorem Entries.collect_eq_entries (declared : List (String × α)) :
    Entries.collect (· == ·) declared = (OrderedMap.ofList declared).entries := by
  have general : ∀ (declared : List (String × α)) (map : OrderedMap String α),
      declared.foldl (fun entries entry => Entries.put (· == ·) entry.1 entry.2 entries)
          map.entries =
        (declared.foldl (fun map entry => map.insert entry.1 entry.2) map).entries := by
    intro declared
    induction declared with
    | nil => exact fun _ => rfl
    | cons entry rest ih =>
      intro map
      exact ih (map.insert entry.1 entry.2)
  exact general declared .empty

end Collect

namespace Value

mutual

/-- Whatever a payload holds, keys with one text end in one field. -/
theorem toJson_proper : ∀ value : Value, value.toJson.Proper
  | .null => .null
  | .bool value => .bool value
  | .int value => .int value
  | .float value => .float value
  | .text value => .str value
  | .list items => .arr (toItems_proper items)
  | .tuple items => .arr (toItems_proper items)
  | .set items => .arr (toItems_proper items)
  | .dict entries => by
    have collected := Entries.collect_eq_entries (toFields entries)
    rw [toJson, collected]
    refine .obj (OrderedMap.ofList (toFields entries)).distinct ?_
    intro field member
    have kept := OrderedMap.mem_values_ofList (List.mem_map.mpr ⟨field, member, rfl⟩)
    obtain ⟨declared, among, same⟩ := List.mem_map.mp kept
    rw [← same]
    exact toFields_proper entries declared among
  | .caught pattern error => by
    refine .obj (by simp) ?_
    intro field member
    simp only [List.mem_cons, List.not_mem_nil, or_false] at member
    rcases member with rfl | rfl
    · exact .str pattern
    · exact toJson_proper error
  | .fault _ _ => .str _
  | .bytes _ => .str _
  | .object shown => .str shown
  | .failure _ => .str _
  | .success _ => .str _

theorem toItems_proper : ∀ items : List Value, ∀ item ∈ toItems items, item.Proper
  | [] => by simp [toItems]
  | value :: items => by
    intro item member
    rcases List.mem_cons.mp member with rfl | later
    · exact toJson_proper value
    · exact toItems_proper items item later

theorem toFields_proper : ∀ entries : List (Value × Value),
    ∀ field ∈ toFields entries, field.2.Proper
  | [] => by simp [toFields]
  | (_, value) :: entries => by
    intro field member
    rcases List.mem_cons.mp member with rfl | later
    · exact toJson_proper value
    · exact toFields_proper entries field later

end

end Value

namespace Api.Response

theorem spellableItems_eq (items : List (Json String)) :
    spellableItems items = items.map spellable := by
  induction items with
  | nil => rfl
  | cons item items ih => rw [spellableItems, ih, List.map_cons]

theorem spellableFields_eq (fields : List (String × Json String)) :
    spellableFields fields = fields.map fun field => (field.1, spellable field.2) := by
  induction fields with
  | nil => rfl
  | cons field fields ih => rw [spellableFields, ih, List.map_cons]

@[simp] theorem spellable_null : spellable .null = .null := rfl

@[simp] theorem spellable_bool (value : Bool) : spellable (.bool value) = .bool value := rfl

@[simp] theorem spellable_str (value : String) : spellable (.str value) = .str value := rfl

@[simp] theorem spellable_ofOption (text : Option String) :
    spellable (.ofOption text) = .ofOption text := by
  cases text <;> rfl

@[simp] theorem spellable_arr (items : List (Json String)) :
    spellable (.arr items) = .arr (items.map spellable) := by
  rw [spellable, spellableItems_eq]

@[simp] theorem spellable_obj (fields : List (String × Json String)) :
    spellable (.obj fields) = .obj (fields.map fun field => (field.1, spellable field.2)) := by
  rw [spellable, spellableFields_eq]

theorem part_spellable (document : Json String) (key : String) :
    (spellable document).part key = spellable (document.part key) := by
  cases document with
  | obj fields =>
    rw [spellable_obj]
    induction fields with
    | nil => rfl
    | cons field fields ih =>
      rw [List.map_cons, Json.part_obj_cons, Json.part_obj_cons, ih]
      split <;> rfl
  | float value =>
    rw [spellable]
    split <;> rfl
  | arr items => rw [spellable_arr]; rfl
  | null => rfl
  | bool value => rfl
  | int value => rfl
  | str value => rfl

theorem items_spellable (document : Json String) :
    (spellable document).items = document.items.map spellable := by
  cases document with
  | arr items => rw [spellable_arr]; rfl
  | obj fields => rw [spellable_obj]; rfl
  | float value =>
    rw [spellable]
    split <;> rfl
  | null => rfl
  | bool value => rfl
  | int value => rfl
  | str value => rfl

end Api.Response

end Flowtrace
