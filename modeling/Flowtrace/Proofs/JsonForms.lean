import Flowtrace.Proofs.Collected

/-! The JSON form of a payload, as a payload again. Whatever the payload holds, its form is JSON
data, and JSON data is its own form. Keys that are spelled alike share one entry, in the place of
the first and with the value of the last. -/

namespace Flowtrace

namespace Json

theorem toValues_eq (items : List (Json String)) : toValues items = items.map toValue := by
  induction items with
  | nil => rfl
  | cons item items ih => rw [toValues, ih, List.map_cons]

theorem toEntries_eq (fields : List (String × Json String)) :
    toEntries fields = fields.map fun field => (.text field.1, field.2.toValue) := by
  induction fields with
  | nil => rfl
  | cons field fields ih => rw [toEntries, ih, List.map_cons]

end Json

namespace Value

def jsonForm (value : Value) : Value := value.toJson.toValue

def named (fields : OrderedMap String Value) : Value :=
  .dict (fields.entries.map fun field => (.text field.1, field.2))

/-- JSON data: a null, a truth value, a number, a text, a list of data, or a dictionary of data
whose keys are names, each different from the others. -/
inductive IsData : Value → Prop where
  | null : IsData .null
  | bool (value : Bool) : IsData (.bool value)
  | int (value : Int) : IsData (.int value)
  | float (value : Binary64) : IsData (.float value)
  | text (value : String) : IsData (.text value)
  | list {items : List Value} (each : ∀ item ∈ items, IsData item) : IsData (.list items)
  | dict {fields : OrderedMap String Value} (each : ∀ item ∈ fields.values, IsData item) :
      IsData (named fields)

theorem toItems_eq (items : List Value) : toItems items = items.map toJson := by
  induction items with
  | nil => rfl
  | cons item items ih => rw [toItems, ih, List.map_cons]

theorem toFields_eq (entries : List (Value × Value)) :
    toFields entries = entries.map fun entry => (entry.1.plain, entry.2.toJson) := by
  induction entries with
  | nil => rfl
  | cons entry entries ih => rw [toFields, ih, List.map_cons]

end Value

theorem Json.toValue_obj (fields : OrderedMap String (Json String)) :
    (Json.obj fields.entries).toValue = Value.named (fields.mapValues toValue) := by
  simp only [toValue, toEntries_eq, Value.named, OrderedMap.mapValues, List.map_map,
    Function.comp_def]

/-- A document whose objects have no two fields of one name stands for JSON data. -/
theorem Json.Proper.isData {document : Json String} (proper : document.Proper) :
    document.toValue.IsData := by
  induction proper with
  | null => exact .null
  | bool value => exact .bool value
  | int value => exact .int value
  | float value => exact .float value
  | str value => exact .text value
  | arr _ each =>
    rw [toValue, toValues_eq]
    refine .list ?_
    intro item member
    obtain ⟨document, among, rfl⟩ := List.mem_map.mp member
    exact each document among
  | @obj fields distinct _ each =>
    rw [toValue_obj ⟨fields, distinct⟩]
    refine .dict ?_
    intro item member
    obtain ⟨entry, among, rfl⟩ := List.mem_map.mp member
    obtain ⟨field, declared, rfl⟩ := List.mem_map.mp among
    exact each field declared

namespace Value

theorem jsonForm_isData (value : Value) : value.jsonForm.IsData := value.toJson_proper.isData

theorem jsonForm_list (items : List Value) :
    jsonForm (.list items) = .list (items.map jsonForm) := by
  rw [jsonForm, toJson, toItems_eq, Json.toValue, Json.toValues_eq, List.map_map]
  rfl

theorem jsonForm_tuple (items : List Value) :
    jsonForm (.tuple items) = .list (items.map jsonForm) := jsonForm_list items

theorem jsonForm_dict (entries : List (Value × Value)) :
    jsonForm (.dict entries) =
      named ((OrderedMap.ofList (toFields entries)).mapValues Json.toValue) := by
  rw [jsonForm, toJson, Entries.collect_eq_entries, Json.toValue_obj]

/-- No entry of a dictionary whose keys are names goes missing. -/
theorem jsonForm_named (fields : OrderedMap String Value) :
    jsonForm (named fields) = named (fields.mapValues jsonForm) := by
  have spelled : toFields (fields.entries.map fun field => (.text field.1, field.2)) =
      (fields.mapValues toJson).entries := by
    rw [toFields_eq, List.map_map]
    rfl
  rw [named, jsonForm_dict, spelled]
  have kept := OrderedMap.entries_ofList_of_nodup (fields.mapValues toJson).distinct
  simp only [named, OrderedMap.mapValues] at kept ⊢
  rw [kept]
  simp only [List.map_map, Function.comp_def, jsonForm]

theorem IsData.jsonForm_eq {value : Value} (data : value.IsData) : value.jsonForm = value := by
  induction data with
  | null | bool _ | int _ | float _ | text _ => rfl
  | @list items _ same =>
    have unchanged : items.map jsonForm = items :=
      (List.map_congr_left same).trans (List.map_id' items)
    rw [jsonForm_list, unchanged]
  | @dict fields _ same =>
    have unchanged : ∀ field ∈ fields.entries, field.2.jsonForm = field.2 := by
      intro field member
      exact same field.2 (List.mem_map.mpr ⟨field, member, rfl⟩)
    rw [jsonForm_named]
    simp only [named, OrderedMap.mapValues, List.map_map]
    refine congrArg Value.dict (List.map_congr_left ?_)
    intro field member
    simp only [Function.comp_apply, unchanged field member]

theorem get?_ofList_toFields (entries : List (Value × Value)) (key : String) :
    (OrderedMap.ofList (toFields entries)).get? key =
      ((entries.filter fun entry => entry.1.plain = key).getLast?).map
        fun entry => entry.2.toJson := by
  rw [OrderedMap.get?_ofList, toFields_eq, List.filter_map, List.getLast?_map, Option.map_map]
  rfl

end Value

/-- The JSON form of a payload is JSON data, and payloads that are data already are those that stay
as they are. The form of a sequence is item by item. A dictionary has the texts of its keys as keys,
each where it first appears, and under each the form of the last item of that key. -/
theorem json_forms_are_a_projection :
    (∀ value : Value, value.jsonForm.IsData) ∧
    (∀ value : Value, value.IsData ↔ value.jsonForm = value) ∧
    (∀ value : Value, value.jsonForm.jsonForm = value.jsonForm) ∧
    (∀ items : List Value,
      (Value.list items).jsonForm = .list (items.map Value.jsonForm) ∧
      (Value.tuple items).jsonForm = .list (items.map Value.jsonForm)) ∧
    ∀ entries : List (Value × Value), ∃ fields : OrderedMap String Value,
      (Value.dict entries).jsonForm = .named fields ∧
      fields.keys = (entries.map fun entry => entry.1.plain).eraseDups ∧
      ∀ key, fields.get? key =
        ((entries.filter fun entry => entry.1.plain = key).getLast?).map
          fun entry => entry.2.jsonForm := by
  refine ⟨Value.jsonForm_isData, ?_, ?_, ?_, ?_⟩
  · intro value
    refine ⟨Value.IsData.jsonForm_eq, fun same => ?_⟩
    rw [← same]
    exact value.jsonForm_isData
  · exact fun value => value.jsonForm_isData.jsonForm_eq
  · exact fun items => ⟨Value.jsonForm_list items, Value.jsonForm_tuple items⟩
  · intro entries
    refine ⟨_, Value.jsonForm_dict entries, ?_, ?_⟩
    · rw [OrderedMap.keys_mapValues, OrderedMap.keys_ofList, Value.toFields_eq, List.map_map]
      rfl
    · intro key
      rw [OrderedMap.get?_mapValues, Value.get?_ofList_toFields, Option.map_map]
      rfl

-- The number and its text are one key, where the number stands and with the item of the text.
example :
    (Value.dict [(.int 1, .text "one"), (.null, .tuple []), (.text "1", .bool true)]).toJson =
      .obj [("1", .bool true), ("None", .arr [])] := by
  rfl

end Flowtrace
