import Flowtrace.Network
import Flowtrace.Run

/-! Workflows: a network of builders with the builder to start from, under a name. -/

namespace Flowtrace

structure Workflow (φ : Type) where
  network : Network φ
  root : Nat
  name : String
  description : String

namespace Workflow

variable {φ : Type}

/-- A workflow without a name of its own has the name of its first task. -/
def make (network : Network φ) (root : Nat) (name : Option String) (description : String) :
    Workflow φ :=
  let own := name.getD ""
  ⟨network, root,
    if own = "" then ((network.builder? root).map (·.name)).getD "" else own, description⟩

def text (workflow : Workflow φ) : String := "Workflow(" ++ Text.quoted workflow.name ++ ")"

def graph (workflow : Workflow φ) : TaskGraph φ := workflow.network.graph workflow.root

def run (workflow : Workflow φ) (engine : Engine φ) (turns : Nat) (input : Value)
    (context : Context) : Run φ :=
  engine.run turns workflow.graph input context

def flowchart (workflow : Workflow φ) (result : Option RunResult) : String :=
  workflow.graph.flowchart result

end Workflow

end Flowtrace
