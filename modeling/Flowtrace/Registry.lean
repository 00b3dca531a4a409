import Flowtrace.Note
import Flowtrace.OrderedMap

/-! Registries of workflows. A workflow stays registered under the name that it had when it was
registered, whatever it is called later. -/

namespace Flowtrace

structure Registry (ω : Type) where
  held : OrderedMap String ω

namespace Registry

variable {ω : Type}

def empty : Registry ω := ⟨.empty⟩

/-- A new workflow goes to the end; one under a known name takes the place of the other. -/
def register (registry : Registry ω) (name : String) (workflow : ω) : Registry ω :=
  ⟨registry.held.insert name workflow⟩

def registrationNote (registry : Registry ω) (name : String) : Note :=
  if registry.held.contains name then .workflowReplaced name else .workflowAdded name

def unregister (registry : Registry ω) (name : String) : Registry ω := ⟨registry.held.erase name⟩

def removalNotes (registry : Registry ω) (name : String) : List Note :=
  if registry.held.contains name then [.workflowRemoved name] else []

def get? (registry : Registry ω) (name : String) : Option ω := registry.held.get? name

def find (registry : Registry ω) (name : String) : Except Fault ω :=
  match registry.get? name with
  | some workflow => .ok workflow
  | none => .error (.workflowNotFound name)

def has (registry : Registry ω) (name : String) : Bool := registry.held.contains name

def list (registry : Registry ω) : List ω := registry.held.values

end Registry

end Flowtrace
