import Flowtrace.Binary64
import Flowtrace.OrderedMap

/-! The values that workflows carry: payloads, contexts, outcomes and failures. A fault is a
value too, because a handler receives the failure that it recovers from. -/

namespace Flowtrace

/-- What kind of fault was raised, with the particulars that its message names. Only an abort
escapes the handling of failures; those from `workflowNotFound` to `stepExecution` are raised by
this library. A derived class has a name of its own and is in all else like its base. -/
inductive FaultKind where
  | exception (className : String)
  | abort
  | workflows
  | workflowNotFound (workflow : String)
  | execution (message : String)
  | structural (message : String)
  | startTaskNotFound
  | taskNotFound (task : String)
  | unmappedChoice (choice key : String)
  | stepExecution (step : String) (reason : Option String)
  | derived (className : String) (base : FaultKind)
deriving DecidableEq

/-- Dictionaries keep their entries in insertion order. A caught failure is what a catch entry
hands to the task that it routes to. The details of a fault are the arguments it was raised
with, and for a failed step the cause of its failure, if it has one. -/
inductive Value where
  | null
  | bool (value : Bool)
  | int (value : Int)
  | float (value : Binary64)
  | text (value : String)
  | bytes (value : List UInt8)
  | list (items : List Value)
  | tuple (items : List Value)
  | set (items : List Value)
  | dict (entries : List (Value × Value))
  | object (shown : String)
  | caught (pattern : String) (error : Value)
  | failure (error : Value)
  | success (value : Value)
  | fault (kind : FaultKind) (details : List Value)
deriving Inhabited

structure Fault where
  kind : FaultKind
  details : List Value

namespace Fault

def toValue (fault : Fault) : Value := .fault fault.kind fault.details

def exception (className message : String) : Fault := ⟨.exception className, [.text message]⟩

def typeError (message : String) : Fault := exception "TypeError" message

/-- What a step fails with when its deadline passes. -/
def timeout : Fault := ⟨.exception "TimeoutError", []⟩

def startTaskNotFound : Fault := ⟨.startTaskNotFound, []⟩

def taskNotFound (task : String) : Fault := ⟨.taskNotFound task, []⟩

def unmappedChoice (choice key : String) : Fault := ⟨.unmappedChoice choice key, []⟩

def workflowNotFound (workflow : String) : Fault := ⟨.workflowNotFound workflow, []⟩

/-- A step that failed without a value has no cause. -/
def stepExecution (step : String) (cause : Value) (reason : Option String) : Fault :=
  ⟨.stepExecution step reason, match cause with | .null => [] | cause => [cause]⟩

end Fault

namespace FaultKind

/-- The class of the language or of this library that a class descends from. -/
@[simp]
def root : FaultKind → FaultKind
  | .derived _ base => base.root
  | kind => kind

def className : FaultKind → String
  | .exception name => name
  | .abort => "Abort"
  | .workflows => "WorkflowsError"
  | .workflowNotFound _ => "WorkflowNotFoundError"
  | .execution _ => "WorkflowExecutionError"
  | .structural _ => "WorkflowStructureError"
  | .startTaskNotFound => "StartTaskNotFoundError"
  | .taskNotFound _ => "TaskNotFoundError"
  | .unmappedChoice .. => "UnmappedChoiceError"
  | .stepExecution .. => "StepExecutionError"
  | .derived name _ => name

def isAbort (kind : FaultKind) : Bool := kind.root = .abort

def isStop (kind : FaultKind) : Bool := kind.root = .exception "StopIteration"

/-- A fault of the graph itself, which no catch entry handles. -/
def isStructural (kind : FaultKind) : Bool :=
  match kind.root with
  | .structural _ | .startTaskNotFound | .taskNotFound _ | .unmappedChoice .. => true
  | _ => false

def isExecution (kind : FaultKind) : Bool :=
  match kind.root with
  | .execution _ | .stepExecution .. => true
  | _ => kind.isStructural

/-- The class of a fault and the more general ones, as far as this library defines them. -/
def lineage (kind : FaultKind) : List String :=
  match kind with
  | .derived _ base => base.lineage
  | .exception _ | .abort => []
  | .workflows => [kind.className]
  | .workflowNotFound _ => [kind.className, "WorkflowsError"]
  | .execution _ => [kind.className, "WorkflowsError"]
  | .structural _ | .stepExecution .. => [kind.className, "WorkflowExecutionError", "WorkflowsError"]
  | .startTaskNotFound | .taskNotFound _ | .unmappedChoice .. =>
    [kind.className, "WorkflowStructureError", "WorkflowExecutionError", "WorkflowsError"]

end FaultKind

/-- No awaited computation ends with the signal that ends an iteration: it arrives as another
fault. -/
def Fault.awaited (fault : Fault) : Fault :=
  if fault.kind.isStop then .exception "RuntimeError" "coroutine raised StopIteration" else fault

namespace Value

def toFault? : Value → Option Fault
  | .fault kind details => some ⟨kind, details⟩
  | _ => none

def isNull : Value → Bool
  | .null => true
  | _ => false

/-- The whole number that a value equals, if any. Truth values count as 0 and 1. -/
def whole? : Value → Option Int
  | .bool value => some (if value then 1 else 0)
  | .int value => some value
  | .float value => value.toInt?
  | _ => none

mutual

/-- The values that find each other as dictionary keys. Numbers compare across their types;
objects and faults are equal to themselves alone. -/
def sameKey : Value → Value → Bool
  | .null, .null => true
  | .text left, .text right => left == right
  | .bytes left, .bytes right => left == right
  | .tuple left, .tuple right => sameKeys left right
  | .caught leftPattern left, .caught rightPattern right =>
    leftPattern == rightPattern && sameKey left right
  | .failure left, .failure right => sameKey left right
  | .success left, .success right => sameKey left right
  | .float left, .float right => left.equals right
  | left, right =>
    match left.whole?, right.whole? with
    | some left, some right => left == right
    | _, _ => false

def sameKeys : List Value → List Value → Bool
  | [], [] => true
  | left :: lefts, right :: rights => sameKey left right && sameKeys lefts rights
  | _, _ => false

end

end Value

/-- The values that the steps of one run share, by name. -/
abbrev Context := List (Value × Value)

namespace Context

def get? (context : Context) (key : String) : Option Value :=
  Entries.lookup Value.sameKey (.text key) context

def set (context : Context) (key : String) (value : Value) : Context :=
  Entries.put Value.sameKey (.text key) value context

def erase (context : Context) (key : String) : Context :=
  Entries.remove Value.sameKey (.text key) context

end Context

end Flowtrace
