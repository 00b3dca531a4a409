import Flowtrace.Diagram.Url
import Flowtrace.Fault
import Flowtrace.Report

/-! Faults that a run ends with, together with what the run had done. -/

namespace Flowtrace

/-- A fault is chained if the run raised it in answer to another fault, its cause. -/
structure Raised (φ : Type) where
  fault : Fault
  chained : Bool
  result : Option RunResult
  graph : Option (TaskGraph φ)

inductive Ending (φ : Type) where
  | returned (result : RunResult)
  | raised (error : Raised φ)

def Transition.traceEntry (transition : Transition) : TraceEntry String :=
  ⟨transition.label, transition.source, transition.destination⟩

namespace Raised

variable {φ : Type}

def bare (fault : Fault) : Raised φ := ⟨fault, false, none, none⟩

def account (error : Raised φ) : Account String where
  message := error.fault.message
  className := error.fault.className
  original := if error.fault.cause.isNull then none else some error.fault.cause.plain
  trace := error.result.elim [] (·.transitions.map Transition.traceEntry)

def report (error : Raised φ) : Json String := error.account.report

def reportText (error : Raised φ) : String := error.account.reportText

/-- The address of a chart that highlights the path, if the run is attached. -/
def imageUrl? (error : Raised φ) : Option String :=
  match error.graph, error.result with
  | some graph, some result => some (Diagram.imageUrl (graph.flowchart (some result)))
  | _, _ => none

end Raised

end Flowtrace
