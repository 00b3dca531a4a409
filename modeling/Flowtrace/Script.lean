import Flowtrace.Graph.Task
import Flowtrace.Step

/-! Scripts: step functions as data. A script is a list of statements over the payload and the
context. It can return, raise, write to the context, wait for ever, and run a graph of its own. -/

namespace Flowtrace

inductive Expr where
  | const (value : Value)
  | payload
  | context (key : String)
  | wholeContext
  | entry (container : Expr) (key : String)
  | add (left right : Expr)
  | less (left right : Expr)
  | equal (left right : Expr)
  | orZero (value : Expr)
  | caughtPattern (caught : Expr)
  | caughtError (caught : Expr)
  | text (value : Expr)
  | list (items : List Expr)
  | dict (entries : List (String × Expr))
  | failure (error : Expr)
  | success (value : Expr)
  | branch (condition onTrue otherwise : Expr)
  | fault (className : String) (arguments : List Expr)

mutual

inductive Statement where
  | give (value : Expr)
  | raise (fault : Expr)
  | set (key : String) (value : Expr)
  | delete (key : String)
  | branch (condition : Expr) (onTrue otherwise : List Statement)
  | pause
  | hang
  | run (tasks : List (Task Script)) (input : Expr) (key : String)

inductive Script where
  | of (mode : StepMode) (body : List Statement)

end

namespace Script

def mode : Script → StepMode
  | .of mode _ => mode

def body : Script → List Statement
  | .of _ body => body

end Script

/-- A script with the text that describes it. Functions with one description are one function. -/
structure DescribedScript where
  description : String
  script : Script

instance : BEq DescribedScript := ⟨fun left right => left.description == right.description⟩

end Flowtrace
