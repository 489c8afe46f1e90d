import ClientGen.Api.Defaults
import ClientGen.Api.Examples
import ClientGen.Api.Grouping
import ClientGen.Api.Identity
import ClientGen.Document.Basic

/-!
# Runs and their phases

A run carries a document through the phases of a profile: it holds the API once it is built, the
diagnostics so far and the count of numbered groups. A phase gives the next state, or a failure with
the state in which the run was left.
-/

namespace ClientGen

structure Run where
  profile : Profile
  target : Target
  document : Document
  api : Option Api := none
  diagnostics : List Diagnostic := []
  anonymous : AnonymousNames := {}

namespace Run

def start (profile : Profile) (document : Document) (config : Config) : Run where
  profile := profile
  target := profile.configure config
  document := document

def report (r : Run) (diagnostics : List Diagnostic) : Run :=
  { r with diagnostics := r.diagnostics ++ diagnostics }

def warnings (r : Run) : List Diagnostic := r.diagnostics.filter (·.isWarning)

/-- The API, for the phase that needs it. -/
def built (r : Run) (phase : String) : Except Failure Api :=
  match r.api with
  | some api => .ok api
  | none => .error (.notBuilt phase)

end Run

/-- A failure and the state in which the run was left. -/
structure Halted where
  failure : Failure
  run : Run

structure Phase where
  name : String
  apply : Run → Except Halted Run

namespace Phase

/-- A phase that refines the API and reports diagnostics about it. -/
def refine (name : String) (change : Run → Api → Api)
    (diagnostics : Run → Api → List Diagnostic) : Phase where
  name := name
  apply := fun r =>
    match r.built "take" with
    | .ok api => .ok ({ r with api := some (change r api) }.report (diagnostics r api))
    | .error failure => .error ⟨failure, r⟩

def build : Phase where
  name := buildPhase
  apply := fun r =>
    let outcome := Api.build r.profile r.target r.document r.anonymous
    let r := { r with anonymous := outcome.anonymous }
    match outcome.result with
    | .ok (api, diagnostics) => .ok ({ r with api := some api }.report diagnostics)
    | .error failure => .error ⟨failure, r⟩

def model : Phase :=
  refine modelPhase (fun r => .identify r.profile r.target) fun r =>
    Api.identifyDiagnostics r.target

def property : Phase :=
  refine propertyPhase (fun r => .finishModels r.profile r.target) fun _ _ => []

def group : Phase :=
  refine groupPhase (fun r => .settleGroups r.profile r.target) fun _ =>
    Api.groupDiagnostics

def examples : Phase :=
  refine examplePhase (fun r => .embedExamples r.profile r.target) fun _ _ => []

/-- The phases of every run, in order. -/
def builtin : List Phase := [build, model, property, group, examples]

/-- The phases one after the other, up to the first failure. -/
def applyAll (phases : List Phase) (r : Run) : Except Halted Run :=
  phases.foldlM (fun r phase => phase.apply r) r

end Phase

end ClientGen
