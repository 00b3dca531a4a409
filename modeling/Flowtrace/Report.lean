import Flowtrace.Json.Printer

/-! What the errors of the engine report, in any kind of text. -/

namespace Flowtrace

open Wording

@[ext]
structure TraceEntry (τ : Type) where
  label : τ
  source : Option τ
  destination : Option τ

/-- What a report is made from: the original is the failure behind the error, if there is one, and
the trace that of the run attached to it. -/
@[ext]
structure Account (τ : Type) where
  message : τ
  className : τ
  original : Option τ
  trace : List (TraceEntry τ)

/-- The errors of the engine by the texts they are made with. The cause of a failed step is told by
its text. -/
inductive EngineError (τ : Type) where
  | execution (message : τ)
  | structural (message : τ)
  | startTaskNotFound
  | taskNotFound (task : τ)
  | unmappedChoice (choice key : τ)
  | stepExecution (step : τ) (cause reason : Option τ)
  | derived (className : τ) (base : EngineError τ)

variable {τ : Type} [Wording τ]

def TraceEntry.report (entry : TraceEntry τ) : Json τ :=
  .obj [(ofString "label", .str entry.label), (ofString "source", .ofOption entry.source),
    (ofString "destination", .ofOption entry.destination)]

namespace Account

def report (account : Account τ) : Json τ :=
  .obj [(ofString "message", .str account.message),
    (ofString "error_type", .str account.className),
    (ofString "original_error", .ofOption account.original),
    (ofString "trace", .arr (account.trace.map TraceEntry.report))]

def reportText (account : Account τ) : String := account.report.print .wide

end Account

namespace EngineError

def className : EngineError τ → τ
  | .execution _ => ofString "WorkflowExecutionError"
  | .structural _ => ofString "WorkflowStructureError"
  | .startTaskNotFound => ofString "StartTaskNotFoundError"
  | .taskNotFound _ => ofString "TaskNotFoundError"
  | .unmappedChoice .. => ofString "UnmappedChoiceError"
  | .stepExecution .. => ofString "StepExecutionError"
  | .derived name _ => name

/-- An empty reason is none. -/
def message [Append τ] : EngineError τ → τ
  | .execution message | .structural message => message
  | .startTaskNotFound => ofString "No start task found"
  | .taskNotFound task => ofString "Task with name '" ++ task ++ ofString "' not found"
  | .unmappedChoice choice key =>
    ofString "Choice '" ++ choice ++ ofString "' has no branch for '" ++ key ++ ofString "'"
  | .stepExecution step cause reason =>
    let cause := match cause with
      | some cause => ofString ": " ++ cause
      | none => ofString ""
    let remark := match reason with
      | some reason =>
        if points reason = [] then ofString "" else ofString " (" ++ reason ++ ofString ")"
      | none => ofString ""
    ofString "Step '" ++ step ++ ofString "' failed" ++ cause ++ remark
  | .derived _ base => base.message

def original : EngineError τ → Option τ
  | .stepExecution _ cause _ => cause
  | .derived _ base => base.original
  | _ => none

def account [Append τ] (error : EngineError τ) (attached : Option (List (TraceEntry τ))) :
    Account τ :=
  ⟨error.message, error.className, error.original, attached.getD []⟩

end EngineError

end Flowtrace
