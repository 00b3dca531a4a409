import Flowtrace.Api.Request
import Flowtrace.Api.View
import Flowtrace.Registry
import Flowtrace.Workflow

/-! The application: a registry and an engine behind an interface that lists, shows, draws and
runs the registered workflows. -/

namespace Flowtrace.Api

structure Config where
  enabled : Bool
  path : String
  tags : List String
  inSchema : Bool
  registryKey : String
  engineKey : String
  stepTimeout : Value

def Config.standard : Config :=
  ⟨true, "/workflows", ["Workflows"], true, "workflow_registry", "workflow_engine", .null⟩

structure GivenEngine where
  stepTimeout : Value
  bus : Option Bus

structure Setup (φ : Type) where
  config : Config
  registry : Option (Registry (Workflow φ))
  engine : Option GivenEngine
  workflows : List (Workflow φ)

structure App (φ : Type) where
  config : Config
  registry : Registry (Workflow φ)
  stepTimeout : Value
  bus : Option Bus
  givenRegistry : Bool
  givenEngine : Bool
  notes : List Note

def notReady (part : String) : Fault :=
  .exception "RuntimeError"
    ("WorkflowPlugin has not been initialized. Access " ++ part ++ " after app startup.")

section

variable {φ : Type}

def registerAll (registry : Registry (Workflow φ)) (workflows : List (Workflow φ)) :
    Registry (Workflow φ) × List Note :=
  workflows.foldl (fun (registry, notes) workflow =>
    (registry.register workflow.name workflow,
      notes ++ [registry.registrationNote workflow.name])) (registry, [])

/-- Sets up an application. A given registry or engine is used as it is, and a given engine keeps
its own timeout. -/
def Setup.app (setup : Setup φ) : App φ :=
  let (registry, registrations) := registerAll (setup.registry.getD .empty) setup.workflows
  { config := setup.config
    registry
    stepTimeout := (setup.engine.map (·.stepTimeout)).getD setup.config.stepTimeout
    bus := setup.engine.bind (·.bus)
    givenRegistry := setup.registry.isSome
    givenEngine := setup.engine.isSome
    notes := registrations ++ [.workflowsListed (registry.list.map (·.name))] ++
      (if setup.config.enabled then [.apiMounted setup.config.path] else []) }

/-- The names under which handlers ask for the registry and the engine, sorted. -/
def Config.dependencies (config : Config) : List String :=
  if config.registryKey = config.engineKey then [config.registryKey]
  else if config.registryKey < config.engineKey then [config.registryKey, config.engineKey]
  else [config.engineKey, config.registryKey]

def App.engine (app : App φ) (steps : φ → Step) : Engine φ :=
  ⟨steps, Deadline.ofTimeout? app.stepTimeout, app.bus⟩

def withWorkflow (app : App φ) (name : String)
    (next : Workflow φ → Response × List Event) : Response × List Event :=
  match app.registry.find name with
  | .ok workflow => next workflow
  | .error fault => (.refused 404 fault.message, [])

def graphResponse (workflow : Workflow φ) (format : String) : Response :=
  if format = "mermaid" then .ok (GraphView.charted workflow.graph).toJson
  else if format = "json" then .ok (GraphView.bare workflow.graph).toJson
  else .refused 400 ("Unknown graph format '" ++ format ++ "'. Use 'mermaid' or 'json'.")

/-- A run that returns is answered with its result, and one that fails in a way that runs report
with the report. Any other fault is the server's to answer. -/
def endingResponse : Option (Ending φ) → Response
  | some (.returned result) => .ok result.toJson
  | some (.raised error) =>
    if error.fault.kind.isExecution then .failed error.toJson else .bare 500
  | none => .bare 504

def runResponse (app : App φ) (steps : φ → Step) (turns : Nat) (order : RunOrder)
    (workflow : Workflow φ) : Response × List Event :=
  let run := workflow.run (app.engine steps) turns order.input order.context
  (endingResponse run.ending?, run.events)

def runOrder (app : App φ) (steps : φ → Step) (turns : Nat) (name : String)
    (body : Option (Json String)) : Response × List Event :=
  match body.bind RunOrder.ofBody? with
  | some order => withWorkflow app name (runResponse app steps turns order)
  | none => (.bare 400, [])

def App.respond (app : App φ) (steps : φ → Step) (turns : Nat) (request : Request) :
    Response × List Event :=
  if app.config.enabled then
    match request with
    | .list => (.ok (.arr (app.registry.list.map fun workflow =>
        (WorkflowSummary.ofWorkflow workflow).toJson)), [])
    | .detail name => withWorkflow app name fun workflow =>
        (.ok (WorkflowDetail.ofWorkflow workflow).toJson, [])
    | .graph name format => withWorkflow app name fun workflow =>
        (graphResponse workflow (format.getD "mermaid"), [])
    | .run name body => runOrder app steps turns name (some body)
    | .runText name body => runOrder app steps turns name (Json.parse? body)
  else (.bare 404, [])

end

end Flowtrace.Api
