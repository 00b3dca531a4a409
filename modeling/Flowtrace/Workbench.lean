import Flowtrace.Api.View
import Flowtrace.Registry

/-! A workbench: builders, workflows and a registry under names that its user chooses, changed and
examined by commands. Workflows see every later change to their builders, because they hold on
to a builder and not to a graph. -/

namespace Flowtrace

inductive Command (φ : Type) where
  | addActivity (id name : String) (step : φ) (start : Bool)
  | addChoice (id name : String) (step : φ) (start : Bool)
  | linkNext (id : String) (target : Option String)
  | linkCaught (id pattern : String) (target : Option String)
  | linkBranch (id key : String) (target : Option String)
  | inspect (id : String)
  | graph (id : String) (slot : Option String)
  | recall (slot : String)
  | compare (left right : String)
  | addWorkflow (id root : String) (name : Option String) (description : String)
  | rename (id name : String)
  | register (id : String)
  | unregister (name : String)
  | get (name : String)
  | list
  | has (name : String)
  | run (id : String) (input : Value) (context : Context)
  | render (id : String) (traced : Option String)
  | detail (id : String)

structure Inspection (φ : Type) where
  text : String
  successors : List String
  definition : Task φ

inductive Reply (φ : Type) where
  | text (text : String)
  | id (id : Option String)
  | inspected (inspection : Inspection φ)
  | graph (graph : TaskGraph φ)
  | truth (value : Bool)
  | workflow (text name description : String)
  | logged (notes : List Note)
  | found (id name : String)
  | listed (workflows : List (String × String))
  | result (result : RunResult)
  | rendered (chart imageUrl editorUrl : String)
  | detail (detail : WorkflowDetail)
  | raised (error : Raised φ)
  | endless
  | unknown (id : String)

/-- A workflow before its builders are looked at. -/
structure Plan where
  root : Nat
  name : String
  description : String

structure Workbench (φ : Type) where
  ids : List String
  network : Network φ
  plans : OrderedMap String Plan
  registry : Registry String
  results : OrderedMap String RunResult
  graphs : OrderedMap String (TaskGraph φ)

namespace Workbench

variable {φ : Type}

def empty : Workbench φ := ⟨[], .empty, .empty, .empty, .empty, .empty⟩

def position? (bench : Workbench φ) (id : String) : Option Nat :=
  bench.ids.findIdx? fun known => known == id

def workflow? (bench : Workbench φ) (id : String) : Option (Workflow φ) :=
  (bench.plans.get? id).map fun plan =>
    ⟨bench.network, plan.root, plan.name, plan.description⟩

def atBuilder (bench : Workbench φ) (id : String)
    (answer : Nat → Builder φ → Workbench φ × Reply φ) : Workbench φ × Reply φ :=
  match (bench.position? id).bind fun position =>
      (bench.network.builder? position).map (position, ·) with
  | some (position, builder) => answer position builder
  | none => (bench, .unknown id)

def atWorkflow (bench : Workbench φ) (id : String)
    (answer : Workflow φ → Workbench φ × Reply φ) : Workbench φ × Reply φ :=
  match bench.workflow? id with
  | some workflow => answer workflow
  | none => (bench, .unknown id)

def addBuilder (bench : Workbench φ) (id name : String) (step : φ) (start isChoice : Bool) :
    Workbench φ × Reply φ :=
  let network := bench.network.add name step start isChoice
  let changed := { bench with ids := bench.ids ++ [id], network }
  (changed, match network.builder? bench.network.size with
    | some builder => .text builder.text
    | none => .unknown id)

/-- Links a builder, unless the target is not known. -/
def link (bench : Workbench φ) (id : String) (target : Option String)
    (make : Option Nat → Link) (reply : Option String) : Workbench φ × Reply φ :=
  bench.atBuilder id fun position _ =>
    match target with
    | none => ({ bench with network := bench.network.connect position (make none) }, .id reply)
    | some name =>
      match bench.position? name with
      | some other =>
        ({ bench with network := bench.network.connect position (make (some other)) }, .id reply)
      | none => (bench, .unknown name)

/-- Runs a workflow and remembers its result, or the partial result of a run that failed. -/
def run (bench : Workbench φ) (engine : Engine φ) (turns : Nat) (id : String) (input : Value)
    (context : Context) : Workbench φ × Reply φ :=
  bench.atWorkflow id fun workflow =>
    match (workflow.run engine turns input context).ending? with
    | some (.returned result) =>
      ({ bench with results := bench.results.insert id result }, .result result)
    | some (.raised error) =>
      ({ bench with
          results := match error.result with
            | some result => bench.results.insert id result
            | none => bench.results.erase id },
        .raised error)
    | none => (bench, .endless)

def render (bench : Workbench φ) (id : String) (traced : Option String) :
    Workbench φ × Reply φ :=
  bench.atWorkflow id fun workflow =>
    let chart := workflow.flowchart (traced.bind bench.results.get?)
    (bench, .rendered chart (Diagram.imageUrl chart) (Diagram.editorUrl chart))

def listed (bench : Workbench φ) : List (String × String) :=
  bench.registry.list.map fun id => (id, ((bench.plans.get? id).map (·.name)).getD "")

def perform [BEq φ] (bench : Workbench φ) (engine : Engine φ) (turns : Nat)
    (command : Command φ) : Workbench φ × Reply φ :=
  match command with
  | .addActivity id name step start => bench.addBuilder id name step start false
  | .addChoice id name step start => bench.addBuilder id name step start true
  | .linkNext id target => bench.link id target .next target
  | .linkCaught id pattern target => bench.link id target (.caught pattern) (some id)
  | .linkBranch id key target => bench.link id target (.branch key) (some id)
  | .inspect id => bench.atBuilder id fun _ builder =>
      (bench, .inspected ⟨builder.text,
        builder.links.successors.filterMap fun position => bench.ids[position]?,
        bench.network.definition builder⟩)
  | .graph id slot => bench.atBuilder id fun position _ =>
      let graph := bench.network.graph position
      (match slot with
        | some slot => { bench with graphs := bench.graphs.insert slot graph }
        | none => bench, .graph graph)
  | .recall slot =>
    (bench, match bench.graphs.get? slot with
      | some graph => .graph graph
      | none => .unknown slot)
  | .compare left right =>
    (bench, match bench.graphs.get? left, bench.graphs.get? right with
      | some first, some second => .truth (first.equivalent second)
      | none, _ => .unknown left
      | _, none => .unknown right)
  | .addWorkflow id root name description => bench.atBuilder root fun position _ =>
      let workflow := Workflow.make bench.network position name description
      ({ bench with plans := bench.plans.insert id ⟨position, workflow.name, description⟩ },
        .workflow workflow.text workflow.name workflow.description)
  | .rename id name => bench.atWorkflow id fun workflow =>
      ({ bench with plans := bench.plans.insert id ⟨workflow.root, name, workflow.description⟩ },
        .text { workflow with name }.text)
  | .register id => bench.atWorkflow id fun workflow =>
      ({ bench with registry := bench.registry.register workflow.name id },
        .logged [bench.registry.registrationNote workflow.name])
  | .unregister name =>
    ({ bench with registry := bench.registry.unregister name },
      .logged (bench.registry.removalNotes name))
  | .get name =>
    (bench, match bench.registry.find name with
      | .ok id => .found id (((bench.plans.get? id).map (·.name)).getD "")
      | .error fault => .raised (.bare fault))
  | .list => (bench, .listed bench.listed)
  | .has name => (bench, .truth (bench.registry.has name))
  | .run id input context => bench.run engine turns id input context
  | .render id traced => bench.render id traced
  | .detail id => bench.atWorkflow id fun workflow =>
      (bench, .detail (WorkflowDetail.ofWorkflow workflow))

end Workbench

end Flowtrace
