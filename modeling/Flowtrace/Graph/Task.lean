import Flowtrace.OrderedMap

/-! Tasks and the edges that leave them. A task names its successors; whether a name leads
anywhere is a question for the graph. Tasks are generic in what stands for a step function, so
that one definition serves scripts, native steps and mere names of functions. -/

namespace Flowtrace

/-- A successor: the name of a task, or nothing for the end of the workflow. -/
abbrev Pointer := Option String

/-- An activity goes on to its successor, or to the target of the first catch entry that matches
its failure. Declaring no catch mapping differs from declaring an empty one in the reason that
an unhandled failure gives. A choice goes to the branch that its own output names. -/
inductive Routing where
  | activity (next : Pointer) (catches : Option (OrderedMap String Pointer))
  | choice (branches : OrderedMap String Pointer)
deriving DecidableEq

structure Task (φ : Type) where
  name : String
  step : φ
  routing : Routing
  start : Bool
deriving DecidableEq

inductive EdgeKind where
  | next
  | caught
  | choice
deriving DecidableEq

def EdgeKind.text : EdgeKind → String
  | .next => "then"
  | .caught => "catch"
  | .choice => "choice"

/-- The label of an edge is a catch pattern, a choice key, or the word for plain success. -/
structure Edge where
  source : String
  label : String
  target : Pointer
  kind : EdgeKind
deriving DecidableEq

def startLabel : String := "(start)"

def endLabel : String := "(end)"

def thenLabel : String := "then"

namespace Routing

def isChoice : Routing → Bool
  | .activity .. => false
  | .choice _ => true

def kindText : Routing → String
  | .activity .. => "activity"
  | .choice _ => "choice"

/-- The catch entries in the order in which they are tried. -/
def catchEntries : Routing → List (String × Pointer)
  | .activity _ (some catches) => catches.entries
  | _ => []

/-- Equal routing, whatever the order in which catch entries and branches were declared. -/
def equivalent : Routing → Routing → Bool
  | .activity leftNext none, .activity rightNext none => leftNext == rightNext
  | .activity leftNext (some left), .activity rightNext (some right) =>
    leftNext == rightNext && left.sameEntries right
  | .choice left, .choice right => left.sameEntries right
  | _, _ => false

end Routing

namespace Task

variable {φ : Type}

/-- The edges of a task in the order of their declaration, success before failures. -/
def edges (task : Task φ) : List Edge :=
  match task.routing with
  | .activity next catches =>
    ⟨task.name, thenLabel, next, .next⟩ ::
      ((catches.map (·.entries)).getD []).map fun entry => ⟨task.name, entry.1, entry.2, .caught⟩
  | .choice branches => branches.entries.map fun entry => ⟨task.name, entry.1, entry.2, .choice⟩

def equivalent [BEq φ] (left right : Task φ) : Bool :=
  left.name == right.name && left.step == right.step &&
    left.routing.equivalent right.routing && left.start == right.start

end Task

end Flowtrace
