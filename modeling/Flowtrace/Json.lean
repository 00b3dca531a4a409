import Flowtrace.Value

/-! JSON documents over any kind of text. Objects keep their fields in order, and whole numbers
are kept apart from floating point ones, because the text of a document tells them apart. -/

namespace Flowtrace

inductive Json (τ : Type) where
  | null
  | bool (value : Bool)
  | int (value : Int)
  | float (value : Binary64)
  | str (value : τ)
  | arr (items : List (Json τ))
  | obj (fields : List (τ × Json τ))
deriving Inhabited

namespace Json

def ofOption {τ : Type} : Option τ → Json τ
  | some text => .str text
  | none => .null

def field? {τ : Type} [BEq τ] (key : τ) : Json τ → Option (Json τ)
  | .obj fields => Entries.lookup (· == ·) key fields
  | _ => none

mutual

def toValue : Json String → Value
  | .null => .null
  | .bool value => .bool value
  | .int value => .int value
  | .float value => .float value
  | .str value => .text value
  | .arr items => .list (toValues items)
  | .obj fields => .dict (toEntries fields)

def toValues : List (Json String) → List Value
  | [] => []
  | item :: items => item.toValue :: toValues items

def toEntries : List (String × Json String) → List (Value × Value)
  | [] => []
  | (key, item) :: fields => (.text key, item.toValue) :: toEntries fields

end

end Json

end Flowtrace
