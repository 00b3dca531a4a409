import Flowtrace.Json.Reader

/-! Requests to the interface and its responses. The body of a run request is checked before the
workflow is looked up. -/

namespace Flowtrace.Api

inductive Request where
  | list
  | detail (workflow : String)
  | graph (workflow : String) (format : Option String)
  | run (workflow : String) (body : Json String)
  | runText (workflow body : String)

/-- A response without a body is one that the server gives by itself. -/
structure Response where
  status : Nat
  body : Option (Json String)

namespace Response

def bare (status : Nat) : Response := ⟨status, none⟩

mutual

/-- Numbers that JSON cannot spell are written as null. -/
def spellable : Json String → Json String
  | .float value => if value.isNaN || value.isInfinite then .null else .float value
  | .arr items => .arr (spellableItems items)
  | .obj fields => .obj (spellableFields fields)
  | other => other

def spellableItems : List (Json String) → List (Json String)
  | [] => []
  | item :: items => spellable item :: spellableItems items

def spellableFields : List (String × Json String) → List (String × Json String)
  | [] => []
  | (key, item) :: fields => (key, spellable item) :: spellableFields fields

end

def ok (body : Json String) : Response := ⟨200, some (spellable body)⟩

def failed (body : Json String) : Response := ⟨422, some (spellable body)⟩

def refused (status : Nat) (reason : String) : Response :=
  ⟨status, some (.obj [("status_code", .int status), ("detail", .str reason)])⟩

end Response

structure RunOrder where
  input : Value
  context : Context

/-- The body of a run request is an object. Both of its fields may be missing, the context must
be an object or null, and other fields are ignored. -/
def RunOrder.ofBody? (body : Json String) : Option RunOrder :=
  match body with
  | .obj _ =>
    let input := ((body.field? "input").map Json.toValue).getD .null
    match body.field? "context" with
    | none | some .null => some ⟨input, []⟩
    | some (.obj fields) => some ⟨input, Json.toEntries fields⟩
    | some _ => none
  | _ => none

end Flowtrace.Api
