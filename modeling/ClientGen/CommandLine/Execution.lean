import ClientGen.CommandLine.Command
import ClientGen.Document.Reader
import ClientGen.Profile.Builtin
import ClientGen.Report
import ClientGen.Run.Snapshot

/-!
# Executing commands

A command reads and writes a file tree and ends in a report or a failure. What was written before a
failure stays: a run that is refused keeps the snapshots taken before, and a file that cannot be
written those in front of it.
-/

namespace ClientGen.CommandLine

inductive CommandFailure
  | run (failure : Failure)
  | unreadable (path : String)
  | document (path : String) (error : Document.ParseError)

def CommandFailure.message : CommandFailure → String
  | .run failure => failure.message
  | .unreadable path => "failed to read " ++ path
  | .document _ error => Document.ParseError.message ++ ": " ++ error.fault.text

/-- The tree that a command leaves, with its report or its failure. -/
structure Outcome where
  tree : FileTree
  result : Except CommandFailure Report

/-- The content of a file. -/
def readFile (tree : FileTree) (path : String) : Except CommandFailure String :=
  match tree.read? path with
  | some content => .ok content
  | none => .error (.unreadable path)

namespace GenerateOptions

variable (o : GenerateOptions)

def loadDocument (tree : FileTree) : Except CommandFailure Document := do
  (Document.parse (← readFile tree o.input)).mapError (.document o.input)

/-- The options of the file, overlaid with those of the command line. -/
def loadConfig (tree : FileTree) : Except CommandFailure Config := do
  let file ← match o.config with
    | some path => (Config.ofToml (← readFile tree path)).mapError .run
    | none => .ok (.ofEntries [])
  let defined ← (Config.ofPairs o.defines).mapError .run
  return file.merge defined

/-- The finished run, and the tree with its snapshots. -/
def runPipeline (profile : Profile) (document : Document) (config : Config) (tree : FileTree) :
    FileTree × Except Failure Run :=
  let pipeline : Pipeline Album := { plugins := o.snapshots.toList.map Plugin.snapshots }
  match pipeline.run profile document config { tree } with
  | .ok s => (s.notes.tree, .ok s.run)
  | .error stopped => (stopped.session.notes.tree, .error stopped.failure)

/-- The files of a run, with their rule for files that are already there. -/
def renderFiles (r : Run) (tree : FileTree) : Except Failure OutputFiles := do
  let emissions ← r.emissions
  let renderer ← match o.templates with
    | some folder => Renderer.templates <$> TemplateStore.ofFolder tree folder
    | none => .ok .contexts
  let files ← OutputFiles.render emissions renderer
  return if o.skipExisting then files.setOverwrite .ifMissing else files

def outputFolder (profile : Profile) : String :=
  o.output.getD (joinPath "generated-code" profile.name)

/-- Writes the files, or lists them when nothing is to be written. -/
def deliver (folder : String) (files : OutputFiles) (tree : FileTree) :
    FileTree × Except Failure GenerationResult :=
  if o.dryRun then (tree, .ok (.preview (files.files.map fun f => (f.path, f.content))))
  else
    let (tree, stats) := files.writeAll folder tree
    (tree, stats.map .written)

def generation (profile : Profile) (r : Run) (result : GenerationResult) : Generation where
  profile := profile.name
  output := o.outputFolder profile
  title := (r.api.map (·.header.title)).getD ""
  models := (r.api.map (·.models.length)).getD 0
  operations := (r.api.map (·.operationCount)).getD 0
  findings := r.diagnostics.map Finding.of
  snapshotFolder := o.snapshots
  result := result

/-- The files of the templates that the profile asks for under the given options. -/
def templatePaths (tree : FileTree) : List String :=
  match o.templates, Registry.clients.get o.profile, o.loadConfig tree with
  | some folder, .ok profile, .ok config =>
    let spec := (profile.configure config).spec
    let names := (spec.modelTemplates ++ spec.apiTemplates).map (·.template) ++
      (spec.topLevel ++ spec.manifest.entries).map (·.template)
    names.map (joinPath folder)
  | _, _, _ => []

/-- Profile, document and config of a run, in this order of failure. -/
def load (tree : FileTree) : Except CommandFailure (Profile × Document × Config) := do
  let profile ← (Registry.clients.get o.profile).mapError .run
  let document ← o.loadDocument tree
  let config ← o.loadConfig tree
  return (profile, document, config)

def execute (tree : FileTree) : Outcome :=
  match o.load tree with
  | .error failure => ⟨tree, .error failure⟩
  | .ok (profile, document, config) =>
    match o.runPipeline profile document config tree with
    | (tree, .error failure) => ⟨tree, .error (.run failure)⟩
    | (tree, .ok r) =>
      match o.renderFiles r tree with
      | .error failure => ⟨tree, .error (.run failure)⟩
      | .ok files =>
        let (tree, result) := o.deliver (o.outputFolder profile) files tree
        ⟨tree, (result.map fun result => (o.generation profile r result).report).mapError .run⟩

end GenerateOptions

def Report.ofRegistry (registry : Registry) : Report :=
  .ofProfiles (registry.profiles.map fun p => (p.name, p.help))

def Report.ofProfile (p : Profile) : Report :=
  .ofOptions p.name (p.spec.options.map fun o => (o.name, o.description, o.defaultText))

def Command.execute (tree : FileTree) : Command → Outcome
  | .generate options => options.execute tree
  | .profiles => ⟨tree, .ok (Report.ofRegistry Registry.clients)⟩
  | .configHelp name =>
    ⟨tree, ((Registry.clients.get name).map Report.ofProfile).mapError .run⟩

/-- What a run of the program shows: its exit code, its output, its warnings, and its message if it
failed. -/
structure Shown where
  exit : Nat
  output : String := ""
  warnings : List String := []
  message : Option String := none

/-- Runs an argument list on a tree: 2 for bad usage, 1 for a failure, otherwise 0. -/
def runArguments (args : List String) (tree : FileTree) : FileTree × Shown :=
  match Command.parse args with
  | .error .version => (tree, { exit := 0, output := versionText ++ "\n" })
  | .error .usage => (tree, { exit := 2, message := some "bad usage" })
  | .ok command =>
    let outcome := command.execute tree
    match outcome.result with
    | .ok report =>
      (outcome.tree, { exit := 0, output := report.output, warnings := report.warnings })
    | .error failure => (outcome.tree, { exit := 1, message := some failure.message })

end ClientGen.CommandLine
