import ClientGen.Api.Json
import ClientGen.Run.Basic

/-!
# Emissions

The files that a finished run asks for: where each goes, which template it is rendered by and what
that template sees. Models come first, then groups, then the files that see all of them, then the
supporting files of the manifest. Every context holds the settings, with the keys of the engine
written over them.
-/

namespace ClientGen

inductive EmissionKind
  | model
  | api
  | topLevel
  | supporting
deriving DecidableEq, Repr

namespace EmissionKind

def all : List EmissionKind := [.model, .api, .topLevel, .supporting]

def name : EmissionKind → String
  | .model => "model"
  | .api => "api"
  | .topLevel => "topLevel"
  | .supporting => "supporting"

end EmissionKind

structure Emission where
  folder : String
  fileName : String
  template : String
  kind : EmissionKind
  context : Entries Json

/-- The path from the root of the output. -/
def Emission.path (e : Emission) : String := joinFolder e.folder e.fileName

def emitPhase : String := "emit"

namespace Run

/-- What every template of a run sees. -/
def baseContext (r : Run) (api : Api) : Entries Json :=
  r.target.settings.values.putAll
    [("meta", api.header.toJson), ("sourceFolder", .str r.target.spec.layout.source),
     ("profile", .str r.profile.name)]

def modelContext (m : Model) : Entries Json :=
  [("model", m.toJson), ("rawProperties", .arr (m.rawProperties.map Property.toJson))]

def groupContext (g : OperationGroup) : Entries Json :=
  [("api", g.toJson), ("operations", .arr (g.operations.map Operation.toJson))]

def apiContext (api : Api) : Entries Json :=
  [("models", .arr (api.models.map Model.toJson)),
   ("apis", .arr (api.groups.map OperationGroup.toJson))]

/-- The file of a class for one template. -/
def classEmission (folder className : String) (kind : EmissionKind) (context : Entries Json)
    (b : TemplateBinding) : Emission where
  folder := folder
  fileName := className ++ b.extension
  template := b.template
  kind := kind
  context := context

/-- The file of an entry that names it in full. -/
def entryEmission (kind : EmissionKind) (context : Entries Json) (e : ManifestEntry) :
    Emission where
  folder := e.folder
  fileName := e.fileName
  template := e.template
  kind := kind
  context := context

/-- The emissions for an API, in their order. -/
def emissionsOf (r : Run) (api : Api) : List Emission :=
  let spec := r.target.spec
  let base := r.baseContext api
  (api.models.flatMap fun m =>
      spec.modelTemplates.map <|
        classEmission spec.layout.modelFolder m.className .model (base.putAll (modelContext m))) ++
    (api.groups.flatMap fun g =>
      spec.apiTemplates.map <|
        classEmission spec.layout.apiFolder g.className .api (base.putAll (groupContext g))) ++
    spec.topLevel.map (entryEmission .topLevel (base.putAll (apiContext api))) ++
    spec.manifest.entries.map (entryEmission .supporting base)

/-- The emissions of a run, once its API is built. -/
def emissions (r : Run) : Except Failure (List Emission) :=
  (r.built emitPhase).map r.emissionsOf

end Run

end ClientGen
