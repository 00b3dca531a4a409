import Flowtrace.Json
import Flowtrace.Value.Description

/-! The JSON form of a payload. Data that JSON knows stays as it is, a sequence becomes an array,
a dictionary an object keyed by the text of its keys, a caught failure an object of its two
parts, a fault its description, and everything else its text. -/

namespace Flowtrace.Value

mutual

/-- Keys with one text share one field, at the position of the first and with the value of the
last. -/
def toJson : Value → Json String
  | .null => .null
  | .bool value => .bool value
  | .int value => .int value
  | .float value => .float value
  | .text value => .str value
  | .list items | .tuple items | .set items => .arr (toItems items)
  | .dict entries => .obj (Entries.collect (· == ·) (toFields entries))
  | .caught pattern error => .obj [("key", .str pattern), ("error", error.toJson)]
  | .fault kind details => .str (Fault.qualified ⟨kind, details⟩)
  | .bytes value => .str (Value.bytes value).plain
  | .object shown => .str shown
  | .failure error => .str error.plain
  | .success value => .str (Value.success value).plain

def toItems : List Value → List (Json String)
  | [] => []
  | item :: items => item.toJson :: toItems items

def toFields : List (Value × Value) → List (String × Json String)
  | [] => []
  | (key, item) :: entries => (key.plain, item.toJson) :: toFields entries

end

end Flowtrace.Value
